import Mathlib.Algebra.Group.Nat.Defs
import Mend.Json.Reading

/-!
# The grammar of JSON

Which texts are JSON, and which values they spell. One value has many spellings: blanks may stand between
tokens, and a character of a string may be written as an escape.

* `Value` : a value; a number is its numeral, and a string with half a surrogate pair has no text;
* `SpellsString`, `SpellsNumber` : the spellings of strings and numbers;
* `Spells`, `SpellsItems`, `SpellsFields` : those of values, of elements and of entries;
* `SpellsText` : a whole text.
-/

namespace Mend.Json

/-- A JSON value. A number is its numeral; a string that holds half a surrogate pair has no text. -/
inductive Value where
  | null
  | bool (b : Bool)
  | number (l : Literal)
  | string (s : Option String)
  | array (items : List Value)
  | object (fields : List (Option String × Value))

/-- A text of blanks, as they may stand between tokens. -/
def Blank (cs : List Char) : Prop := ∀ c ∈ cs, isSpace c = true

/-! ## Strings -/

/-- A hexadecimal digit and its value. -/
inductive HexDigit : Char → Nat → Prop
  | lower {v : Nat} (h : v < 16) : HexDigit (Nat.digitChar v) v
  | upper {v : Nat} (h : v < 16) : HexDigit (Nat.digitChar v).toUpper v

/-- The spellings of one unit of a string: a character that needs no escape, an escape of one letter, or the
number of a character or of half a surrogate pair. -/
inductive SpellsUnit : StringUnit → List Char → Prop
  | plain {c : Char} (hquote : c ≠ '"') (hescape : c ≠ '\\') (hcontrol : 0x20 ≤ c.toNat) :
    SpellsUnit (.char c) [c]
  | short {e c : Char} (h : shortEscape? e = some c) : SpellsUnit (.char c) ['\\', e]
  | code {a b c d : Char} {w x y z : Nat} (ha : HexDigit a w) (hb : HexDigit b x) (hc : HexDigit c y)
    (hd : HexDigit d z) : SpellsUnit (.code (w * 16 ^ 3 + x * 16 ^ 2 + y * 16 + z)) ['\\', 'u', a, b, c, d]

inductive SpellsUnits : List StringUnit → List Char → Prop
  | nil : SpellsUnits [] []
  | cons {u : StringUnit} {us : List StringUnit} {cs ds : List Char} :
    SpellsUnit u cs → SpellsUnits us ds → SpellsUnits (u :: us) (cs ++ ds)

/-- The characters that units stand for. The halves of a surrogate pair stand for one together, and for none
alone. -/
inductive Denotes : List StringUnit → List Char → Prop
  | nil : Denotes [] []
  | char {c : Char} {us : List StringUnit} {cs : List Char} :
    Denotes us cs → Denotes (.char c :: us) (c :: cs)
  | code {n : Nat} {us : List StringUnit} {cs : List Char} (h : n < 0xd800 ∨ 0xdfff < n) :
    Denotes us cs → Denotes (.code n :: us) (Char.ofNat n :: cs)
  | pair {n m : Nat} {us : List StringUnit} {cs : List Char} (hn : 0xd800 ≤ n ∧ n ≤ 0xdbff)
    (hm : 0xdc00 ≤ m ∧ m ≤ 0xdfff) : Denotes us cs →
    Denotes (.code n :: .code m :: us) (Char.ofNat (0x10000 + (n - 0xd800) * 0x400 + (m - 0xdc00)) :: cs)

inductive SpellsString : Option String → List Char → Prop
  | text {us : List StringUnit} {cs : List Char} {s : String} :
    SpellsUnits us cs → Denotes us s.toList → SpellsString (some s) ('"' :: cs ++ ['"'])
  | halves {us : List StringUnit} {cs : List Char} :
    SpellsUnits us cs → (∀ ds, ¬Denotes us ds) → SpellsString none ('"' :: cs ++ ['"'])

/-! ## Numbers -/

def IsDigits (ds : List Nat) : Prop := ds ≠ [] ∧ ∀ d ∈ ds, d < 10

def digitChars (ds : List Nat) : List Char := ds.map Nat.digitChar

/-- The spelling of what stands behind the point. -/
inductive SpellsFraction : Option (List Nat) → List Char → Prop
  | none : SpellsFraction none []
  | some {ds : List Nat} (h : IsDigits ds) : SpellsFraction (some ds) ('.' :: digitChars ds)

inductive SpellsSign : Bool → List Char → Prop
  | none : SpellsSign false []
  | plus : SpellsSign false ['+']
  | minus : SpellsSign true ['-']

inductive SpellsExponent : Option (Bool × List Nat) → List Char → Prop
  | none : SpellsExponent none []
  | some {e : Char} {down : Bool} {sign : List Char} {ds : List Nat} (he : e = 'e' ∨ e = 'E')
    (hsign : SpellsSign down sign) (h : IsDigits ds) :
    SpellsExponent (some (down, ds)) (e :: (sign ++ digitChars ds))

/-- The spellings of a number. No zero stands in front of another digit. -/
inductive SpellsNumber : Literal → List Char → Prop
  | mk {negative : Bool} {whole : List Nat} {fraction : Option (List Nat)}
    {exponent : Option (Bool × List Nat)} {fs es : List Char} (hwhole : IsDigits whole)
    (hzero : whole.head? = some 0 → whole = [0]) (hfraction : SpellsFraction fraction fs)
    (hexponent : SpellsExponent exponent es) :
    SpellsNumber ⟨negative, whole, fraction, exponent⟩
      ((if negative then ['-'] else []) ++ (digitChars whole ++ (fs ++ es)))

/-! ## Values -/

mutual

inductive Spells : Value → List Char → Prop
  | null : Spells .null ['n', 'u', 'l', 'l']
  | yes : Spells (.bool true) ['t', 'r', 'u', 'e']
  | no : Spells (.bool false) ['f', 'a', 'l', 's', 'e']
  | number {l : Literal} {cs : List Char} : SpellsNumber l cs → Spells (.number l) cs
  | string {s : Option String} {cs : List Char} : SpellsString s cs → Spells (.string s) cs
  | emptyArray {a : List Char} : Blank a → Spells (.array []) ('[' :: (a ++ [']']))
  | array {vs : List Value} {cs : List Char} : SpellsItems vs cs → Spells (.array vs) ('[' :: (cs ++ [']']))
  | emptyObject {a : List Char} : Blank a → Spells (.object []) ('\x7b' :: (a ++ ['\x7d']))
  | object {fields : List (Option String × Value)} {cs : List Char} :
    SpellsFields fields cs → Spells (.object fields) ('\x7b' :: (cs ++ ['\x7d']))

/-- The spellings of elements, of which there is at least one. -/
inductive SpellsItems : List Value → List Char → Prop
  | one {v : Value} {a cs b : List Char} :
    Blank a → Spells v cs → Blank b → SpellsItems [v] (a ++ (cs ++ b))
  | more {v : Value} {vs : List Value} {a cs b ds : List Char} :
    Blank a → Spells v cs → Blank b → SpellsItems vs ds →
      SpellsItems (v :: vs) (a ++ (cs ++ (b ++ ',' :: ds)))

/-- The spellings of entries, of which there is at least one. -/
inductive SpellsFields : List (Option String × Value) → List Char → Prop
  | one {k : Option String} {v : Value} {a ks b c cs d : List Char} :
    Blank a → SpellsString k ks → Blank b → Blank c → Spells v cs → Blank d →
      SpellsFields [(k, v)] (a ++ (ks ++ (b ++ ':' :: (c ++ (cs ++ d)))))
  | more {k : Option String} {v : Value} {fields : List (Option String × Value)}
    {a ks b c cs d ds : List Char} :
    Blank a → SpellsString k ks → Blank b → Blank c → Spells v cs → Blank d → SpellsFields fields ds →
      SpellsFields ((k, v) :: fields) (a ++ (ks ++ (b ++ ':' :: (c ++ (cs ++ (d ++ ',' :: ds))))))

end

/-- A whole text spells a value, blanks around it. -/
def SpellsText (v : Value) (s : String) : Prop :=
  ∃ a cs b, Blank a ∧ Spells v cs ∧ Blank b ∧ s.toList = a ++ (cs ++ b)

end Mend.Json
