import Mend.Proofs.Json.Grammar

/-!
# Reading what is spelled

Whatever spelling of a value stands in front of a text, the reader gives the tree of that value and goes on
behind it.

* `Value.reading` : the tree of a value; `reading_skip` : it can be skipped;
* `unitChars_of_denotes`, `unitChars_cases`, `scanString_spells` : strings;
* `literal_spells`, `scanNumber_spells` : numbers;
* `readValue_spells` : values, with enough fuel for every spelling;
* `ofText_spells` : whole texts.
-/

namespace Mend.Json

def stringScan : Option String → Scan String
  | some s => ⟨.ok s, .ok ()⟩
  | none => ⟨.error .malformed, .ok ()⟩

mutual

def Value.reading : Value → Reading
  | .null => .null
  | .bool b => .bool b
  | .number l => .number ⟨l.value, .ok ()⟩
  | .string s => .string (stringScan s)
  | .array items => .array (itemsOf items)
  | .object fields => .object (fieldsOf fields)

def itemsOf : List Value → Items
  | [] => .close
  | v :: vs => .item v.reading (itemsOf vs)

def fieldsOf : List (Option String × Value) → Fields
  | [] => .close
  | (k, v) :: fields => .field (stringScan k) v.reading (fieldsOf fields)

end

mutual

theorem reading_skip (v : Value) : v.reading.skip = .ok () := by
  cases v with
  | null => rfl
  | bool b => rfl
  | number l => rfl
  | string s => cases s <;> rfl
  | array items => rw [Value.reading, Reading.skip, itemsOf_skip]
  | object fields => rw [Value.reading, Reading.skip, fieldsOf_skip]

theorem itemsOf_skip (vs : List Value) : (itemsOf vs).skip = .ok () := by
  cases vs with
  | nil => rfl
  | cons v vs =>
    rw [itemsOf, Items.skip, reading_skip v]
    exact itemsOf_skip vs

theorem fieldsOf_skip (fields : List (Option String × Value)) : (fieldsOf fields).skip = .ok () := by
  cases fields with
  | nil => rfl
  | cons field fields =>
    obtain ⟨k, v⟩ := field
    have hkey : (stringScan k).skip = .ok () := by cases k <;> rfl
    rw [fieldsOf, Fields.skip, hkey, reading_skip v]
    exact fieldsOf_skip fields

end

/-! ## Blanks -/

theorem dropSpace_blank {a : List Char} (h : Blank a) (t : Text) : dropSpace (a.map some ++ t) = dropSpace t := by
  induction a with
  | nil => rfl
  | cons c a ih =>
    have hc : isSpace c = true := h c List.mem_cons_self
    have hrest := ih fun d hd => h d (List.mem_cons_of_mem _ hd)
    simp only [dropSpace] at hrest ⊢
    rw [List.map_cons, List.cons_append, List.dropWhile_cons_of_pos (by simpa using hc), hrest]

theorem dropSpace_cons {c : Char} (h : isSpace c = false) (t : Text) :
    dropSpace (some c :: t) = some c :: t := by
  simp [dropSpace, h]

theorem readValue_blank {a : List Char} (h : Blank a) (fuel : Nat) (t : Text) :
    readValue fuel (a.map some ++ t) = readValue fuel t := by
  cases fuel with
  | zero => simp only [readValue]
  | succ fuel => simp only [readValue, dropSpace_blank h]

theorem readItem_blank {a : List Char} (h : Blank a) (fuel : Nat) (t : Text) :
    readItem fuel (a.map some ++ t) = readItem fuel t := by
  cases fuel with
  | zero => simp only [readItem]
  | succ fuel => simp only [readItem, readValue_blank h]

theorem readFields_blank {a : List Char} (h : Blank a) (fuel : Nat) (first : Bool) (t : Text) :
    readFields fuel first (a.map some ++ t) = readFields fuel first t := by
  cases fuel with
  | zero => simp only [readFields]
  | succ fuel => simp only [readFields, dropSpace_blank h]

/-! ## Strings -/

theorem hexDigit?_of_hexDigit {c : Char} {v : Nat} (h : HexDigit c v) : hexDigit? (some c) = some v := by
  have hlower : ∀ v < 16, hexDigit? (some (Nat.digitChar v)) = some v := by decide
  have hupper : ∀ v < 16, hexDigit? (some (Nat.digitChar v).toUpper) = some v := by decide
  cases h with
  | lower h => exact hlower v h
  | upper h => exact hupper v h

theorem hexCode?_of_hexDigit {a b c d : Char} {w x y z : Nat} (ha : HexDigit a w) (hb : HexDigit b x)
    (hc : HexDigit c y) (hd : HexDigit d z) :
    hexCode? (some a) (some b) (some c) (some d) = some (w * 16 ^ 3 + x * 16 ^ 2 + y * 16 + z) := by
  rw [hexCode?, hexDigit?_of_hexDigit ha, hexDigit?_of_hexDigit hb, hexDigit?_of_hexDigit hc,
    hexDigit?_of_hexDigit hd]
  exact congrArg some (by omega)

theorem stringUnits_cons {u : StringUnit} {cs : List Char} (h : SpellsUnit u cs) (t : Text) :
    stringUnits (cs.map some ++ t) =
      (u :: (stringUnits t).1, (stringUnits t).2.1, (stringUnits t).2.2) := by
  cases h with
  | @plain c hquote hescape hcontrol =>
    have hc : ¬c.toNat < 0x20 := by omega
    simp only [List.map_cons, List.map_nil, List.cons_append, List.nil_append]
    rw [stringUnits]
    · simp [hc]
    all_goals simp_all
  | @short e c h =>
    have hu : e ≠ 'u' := by
      rintro rfl
      cases h
    simp only [List.map_cons, List.map_nil, List.cons_append, List.nil_append]
    rw [stringUnits]
    · simp [h]
    all_goals simp_all
  | code ha hb hc hd =>
    simp only [List.map_cons, List.map_nil, List.cons_append, List.nil_append]
    rw [stringUnits, hexCode?_of_hexDigit ha hb hc hd]

theorem stringUnits_spells {us : List StringUnit} {cs : List Char} (h : SpellsUnits us cs) (rest : Text) :
    stringUnits (cs.map some ++ some '"' :: rest) = (us, none, rest) := by
  induction h with
  | nil => simp [stringUnits]
  | cons hu _ ih => rw [List.map_append, List.append_assoc, stringUnits_cons hu, ih]

theorem unitChars_of_denotes {us : List StringUnit} {cs : List Char} (h : Denotes us cs) :
    unitChars none us = .ok cs := by
  induction h with
  | nil => rfl
  | char _ ih => rw [unitChars, ih]; rfl
  | @code n us cs h _ ih =>
    rw [unitChars.eq_def]
    dsimp only
    rw [if_neg (by omega), if_pos (by omega), ih]
    rfl
  | @pair n m us cs hn hm _ ih =>
    rw [unitChars.eq_def]
    dsimp only
    rw [if_neg (by omega), if_neg (by omega), if_pos hm, ih]
    have hpair : surrogatePair n m = Char.ofNat (0x10000 + (n - 0xd800) * 0x400 + (m - 0xdc00)) :=
      congrArg Char.ofNat (by omega)
    rw [hpair]
    rfl

/-- Units stand for characters, or their halves of surrogate pairs are noticed. -/
theorem unitChars_cases (us : List StringUnit) :
    (∃ cs, Denotes us cs) ∨ unitChars none us = .error .malformed := by
  fun_induction unitChars none us with
  | case1 => exact Or.inl ⟨[], .nil⟩
  | case2 f h => cases h
  | case3 c us ih =>
    rcases ih with ⟨cs, h⟩ | h
    · exact Or.inl ⟨_, .char h⟩
    · exact Or.inr (by rw [h]; rfl)
  | case4 us ih =>
    rcases ih with ⟨cs, h⟩ | h
    · exact Or.inr (by rw [unitChars_of_denotes h]; rfl)
    · exact Or.inr (by rw [h]; rfl)
  | case5 => exact Or.inr rfl
  | case6 n us hlow hplain ih =>
    rcases ih with ⟨cs, h⟩ | h
    · exact Or.inl ⟨_, .code (by omega) h⟩
    · exact Or.inr (by rw [h]; rfl)
  | case7 => exact Or.inr rfl
  | case8 n hlow hhigh m us hm ih =>
    rcases ih with ⟨cs, h⟩ | h
    · exact Or.inl ⟨_, .pair (by omega) hm h⟩
    · exact Or.inr (by rw [h]; rfl)
  | case9 => exact Or.inr rfl
  | case10 => exact Or.inr rfl

theorem scanString_spells {k : Option String} {ks : List Char} (h : SpellsString k ks) (rest : Text) :
    ∃ t, ks.map some ++ rest = some '"' :: t ∧ scanString t = (stringScan k, rest) := by
  cases h with
  | @text us cs s hunits hdenotes =>
    refine ⟨cs.map some ++ some '"' :: rest, by simp, ?_⟩
    rw [scanString, stringUnits_spells hunits]
    dsimp only
    rw [unitChars_of_denotes hdenotes]
    simp [Except.map, stringScan]
  | @halves us cs hunits hnone =>
    refine ⟨cs.map some ++ some '"' :: rest, by simp, ?_⟩
    have hbroken : unitChars none us = .error .malformed :=
      (unitChars_cases us).resolve_left fun ⟨ds, h⟩ => hnone ds h
    rw [scanString, stringUnits_spells hunits]
    dsimp only
    rw [hbroken]
    rfl

/-! ## Numbers -/

def EndsNumeral (t : Text) : Prop :=
  ∀ c u, t = some c :: u → c.isDigit = false ∧ c ≠ '.' ∧ c ≠ 'e' ∧ c ≠ 'E'

theorem digitRun_of_not_digit {t : Text} (h : ∀ c u, t = some c :: u → c.isDigit = false) :
    digitRun t = ([], t) := by
  unfold digitRun
  split
  · next c u => simp [h c u rfl]
  · rfl

theorem digitRun_digits {ds : List Nat} (hds : ∀ d ∈ ds, d < 10) {rest : Text}
    (hrest : ∀ c u, rest = some c :: u → c.isDigit = false) :
    digitRun ((digitChars ds).map some ++ rest) = (ds, rest) := by
  have hdigit : ∀ d < 10, (Nat.digitChar d).isDigit = true ∧ (Nat.digitChar d).toNat - '0'.toNat = d := by
    decide
  induction ds with
  | nil => exact digitRun_of_not_digit hrest
  | cons d ds ih =>
    obtain ⟨hd, hvalue⟩ := hdigit d (hds d List.mem_cons_self)
    have hrun := ih fun d hd => hds d (List.mem_cons_of_mem _ hd)
    simp only [digitChars, List.map_cons, List.cons_append] at hrun ⊢
    rw [digitRun, if_pos hd, hrun, hvalue]

theorem digitChar_ne {d : Nat} (h : d < 10) {c : Char} (hc : c.isDigit = false) : Nat.digitChar d ≠ c := by
  have hdigit : ∀ d < 10, (Nat.digitChar d).isDigit = true := by decide
  rintro rfl
  simp [hdigit d h] at hc

theorem exponentPart_spells {down : Bool} {sign : List Char} {ds : List Nat} (hsign : SpellsSign down sign)
    (hds : IsDigits ds) {rest : Text} (hrest : EndsNumeral rest) :
    exponentPart ((sign ++ digitChars ds).map some ++ rest) = (some (down, ds), rest) := by
  have hrun := digitRun_digits hds.2 fun c u h => (hrest c u h).1
  obtain ⟨d, ds, rfl⟩ := List.exists_cons_of_ne_nil hds.1
  have hd : d < 10 := hds.2 d List.mem_cons_self
  cases hsign with
  | none =>
    rw [List.nil_append]
    unfold exponentPart
    split
    next negative t heq =>
    split at heq
    · next u h => exact absurd (Option.some.inj (List.cons.inj h).1) (digitChar_ne hd rfl)
    · next u h => exact absurd (Option.some.inj (List.cons.inj h).1) (digitChar_ne hd rfl)
    · cases heq
      rw [hrun]
  | plus =>
    rw [List.singleton_append, List.map_cons, List.cons_append, exponentPart, hrun]
  | minus =>
    rw [List.singleton_append, List.map_cons, List.cons_append, exponentPart, hrun]

theorem withExponent_spells {l : Literal} (hl : l.exponent = none) {e : Option (Bool × List Nat)}
    {es : List Char} (he : SpellsExponent e es) {rest : Text} (hrest : EndsNumeral rest) :
    withExponent l (es.map some ++ rest) = (some { l with exponent := e }, rest) := by
  cases he with
  | none =>
    rw [List.map_nil, List.nil_append]
    unfold withExponent
    split
    · next t => exact absurd rfl (hrest 'e' t rfl).2.2.1
    · next t => exact absurd rfl (hrest 'E' t rfl).2.2.2
    · rw [← hl]
  | @some c down sign ds hc hsign hds =>
    have hpart := exponentPart_spells hsign hds hrest
    rw [List.map_cons, List.cons_append]
    rcases hc with rfl | rfl
    · rw [withExponent, hpart]
    · rw [withExponent, hpart]

theorem not_digit_of_exponent {e : Option (Bool × List Nat)} {es : List Char} (he : SpellsExponent e es)
    {rest : Text} (hrest : EndsNumeral rest) (c : Char) (u : Text) (h : es.map some ++ rest = some c :: u) :
    c.isDigit = false := by
  cases he with
  | none => exact (hrest c u h).1
  | some hc => rcases hc with rfl | rfl <;> cases h <;> rfl

theorem withFraction_spells {l : Literal} (hl : l.fraction = none) (hl' : l.exponent = none)
    {f : Option (List Nat)} {fs : List Char} (hf : SpellsFraction f fs) {e : Option (Bool × List Nat)}
    {es : List Char} (he : SpellsExponent e es) {rest : Text} (hrest : EndsNumeral rest) :
    withFraction l ((fs ++ es).map some ++ rest) = (some { l with fraction := f, exponent := e }, rest) := by
  cases hf with
  | none =>
    rw [List.nil_append]
    unfold withFraction
    split
    · next t heq =>
      exfalso
      cases he with
      | none => exact (hrest '.' t heq).2.1 rfl
      | some hc => rcases hc with rfl | rfl <;> cases heq
    · rw [withExponent_spells hl' he hrest, ← hl]
  | @some ds hds =>
    have hrun := digitRun_digits hds.2 (not_digit_of_exponent he hrest)
    obtain ⟨d, ds, rfl⟩ := List.exists_cons_of_ne_nil hds.1
    rw [List.cons_append, List.map_cons, List.cons_append, List.map_append, List.append_assoc, withFraction,
      hrun]
    exact withExponent_spells (l := { l with fraction := some (d :: ds) }) hl' he hrest

theorem literal_sign (negative : Bool) {t : Text} (h : ∀ u, t ≠ some '-' :: u) :
    literal (((if negative then ['-'] else []) : List Char).map some ++ t) =
      match digitRun t with
      | ([], rest) => (none, rest)
      | (0 :: d :: _, rest) => (none, some (Nat.digitChar d) :: rest)
      | (ds, rest) => withFraction ⟨negative, ds, none, none⟩ rest := by
  cases negative with
  | true => rfl
  | false =>
    rw [if_neg nofun, List.map_nil, List.nil_append]
    unfold literal
    split
    next negative u heq =>
    split at heq
    · next v => exact absurd rfl (h v)
    · cases heq
      rfl

theorem literal_spells {l : Literal} {cs : List Char} (h : SpellsNumber l cs) {rest : Text}
    (hrest : EndsNumeral rest) : literal (cs.map some ++ rest) = (some l, rest) := by
  obtain @⟨negative, whole, fraction, exponent, fs, es, hwhole, hzero, hfraction, hexponent⟩ := h
  have hstop : ∀ c u, (fs ++ es).map some ++ rest = some c :: u → c.isDigit = false := by
    intro c u heq
    cases hfraction with
    | some => cases heq; rfl
    | none => exact not_digit_of_exponent hexponent hrest c u heq
  have hrun := digitRun_digits hwhole.2 hstop
  have hbehind := withFraction_spells (l := ⟨negative, whole, none, none⟩) rfl rfl hfraction hexponent hrest
  obtain ⟨d, ds, rfl⟩ := List.exists_cons_of_ne_nil hwhole.1
  have hminus : ∀ u, (digitChars (d :: ds)).map some ++ ((fs ++ es).map some ++ rest) ≠ some '-' :: u := by
    intro u heq
    exact digitChar_ne (hwhole.2 d List.mem_cons_self) rfl (Option.some.inj (List.cons.inj heq).1)
  rw [List.map_append, List.append_assoc, List.map_append, List.append_assoc, literal_sign negative hminus, hrun]
  -- a leading zero is the only digit
  split
  · next heq => cases heq
  · next heq =>
    cases heq
    cases hzero rfl
  · next heq =>
    cases heq
    exact hbehind

theorem scanNumber_spells {l : Literal} {cs : List Char} (h : SpellsNumber l cs) {rest : Text}
    (hrest : EndsNumeral rest) : scanNumber (cs.map some ++ rest) = (⟨l.value, .ok ()⟩, rest) := by
  rw [scanNumber, literal_spells h hrest]

theorem SpellsNumber.start {l : Literal} {cs : List Char} (h : SpellsNumber l cs) :
    ∃ c ds, cs = c :: ds ∧ (c.isDigit = true ∨ c = '-') := by
  have hdigit : ∀ d < 10, (Nat.digitChar d).isDigit = true := by decide
  obtain @⟨negative, whole, fraction, exponent, fs, es, hwhole, -, -, -⟩ := h
  obtain ⟨d, ds, rfl⟩ := List.exists_cons_of_ne_nil hwhole.1
  cases negative with
  | true => exact ⟨_, _, rfl, Or.inr rfl⟩
  | false => exact ⟨_, _, rfl, Or.inl (hdigit d (hwhole.2 d List.mem_cons_self))⟩

/-! ## Values -/

theorem isSpace_of_numeral {c : Char} (h : c.isDigit = true ∨ c = '-') : isSpace c = false ∧ c ≠ ']' := by
  rcases h with h | rfl
  · refine ⟨Bool.eq_false_iff.mpr fun hspace => ?_, fun heq => ?_⟩
    · simp only [isSpace, Bool.or_eq_true, decide_eq_true_eq] at hspace
      rcases hspace with ((rfl | rfl) | rfl) | rfl <;> cases h
    · rw [heq] at h
      cases h
  · exact ⟨rfl, nofun⟩

/-- A value starts with neither a blank nor the end of an array. -/
theorem Spells.start {v : Value} {cs : List Char} (h : Spells v cs) :
    ∃ c ds, cs = c :: ds ∧ isSpace c = false ∧ c ≠ ']' := by
  cases h with
  | number h =>
    obtain ⟨c, ds, rfl, hc⟩ := h.start
    exact ⟨c, ds, rfl, isSpace_of_numeral hc⟩
  | string h => cases h <;> exact ⟨_, _, rfl, rfl, nofun⟩
  | _ => exact ⟨_, _, rfl, rfl, nofun⟩

theorem SpellsItems.start {vs : List Value} {cs : List Char} (h : SpellsItems vs cs) :
    ∃ a c ds, cs = a ++ c :: ds ∧ Blank a ∧ isSpace c = false ∧ c ≠ ']' := by
  cases h with
  | one ha hv _ =>
    obtain ⟨c, ds, rfl, hc⟩ := hv.start
    exact ⟨_, c, _, rfl, ha, hc⟩
  | more ha hv _ _ =>
    obtain ⟨c, ds, rfl, hc⟩ := hv.start
    exact ⟨_, c, _, rfl, ha, hc⟩

theorem readValue_number {c : Char} (h : c.isDigit = true ∨ c = '-') (fuel : Nat) (t : Text) :
    readValue (fuel + 1) (some c :: t) =
      (.number (scanNumber (some c :: t)).1,
        resume (scanNumber (some c :: t)).1 (scanNumber (some c :: t)).2) := by
  rw [readValue, dropSpace_cons (isSpace_of_numeral h).1]
  split
  case h_7 heq =>
    cases heq
    rw [if_pos h]
  case h_8 hother => exact absurd rfl (hother c t)
  all_goals
    next heq =>
    cases heq
    rcases h with h | h <;> cases h

theorem endsNumeral_nil : EndsNumeral [] := nofun

/-- Behind a value come blanks and the next token, neither of which goes on with a numeral. -/
theorem endsNumeral_blank {a : List Char} (h : Blank a) {t : Text} (ht : EndsNumeral t) :
    EndsNumeral (a.map some ++ t) := by
  intro c u heq
  cases a with
  | nil => exact ht c u heq
  | cons d a =>
    have hspace := h d List.mem_cons_self
    cases heq
    simp only [isSpace, Bool.or_eq_true, decide_eq_true_eq] at hspace
    rcases hspace with ((rfl | rfl) | rfl) | rfl <;> decide

theorem endsNumeral_token {c : Char} (h : c = ',' ∨ c = ']' ∨ c = '\x7d') (t : Text) :
    EndsNumeral (some c :: t) := by
  rintro d u ⟨⟩
  rcases h with rfl | rfl | rfl <;> decide

theorem readValue_string (fuel : Nat) (t : Text) :
    readValue (fuel + 1) (some '"' :: t) =
      (.string (scanString t).1, resume (scanString t).1 (scanString t).2) := rfl

theorem readValue_array (fuel : Nat) (t : Text) :
    readValue (fuel + 1) (some '[' :: t) = (.array (readFirstItem fuel t).1, (readFirstItem fuel t).2) := rfl

theorem readValue_object (fuel : Nat) (t : Text) :
    readValue (fuel + 1) (some '\x7b' :: t) =
      (.object (readFields fuel true t).1, (readFields fuel true t).2) := rfl

theorem readFirstItem_blank {a : List Char} (h : Blank a) (fuel : Nat) (t : Text) :
    readFirstItem (fuel + 1) (a.map some ++ some ']' :: t) = (.close, some t) := by
  rw [readFirstItem, dropSpace_blank h, dropSpace_cons rfl]
  rfl

theorem readFirstItem_spells {vs : List Value} {cs : List Char} (h : SpellsItems vs cs) (fuel : Nat) (t : Text) :
    readFirstItem (fuel + 1) (cs.map some ++ t) = readItem fuel (cs.map some ++ t) := by
  obtain ⟨a, c, ds, rfl, ha, hspace, hclose⟩ := h.start
  simp only [List.map_append, List.map_cons, List.append_assoc, List.cons_append]
  rw [readFirstItem, dropSpace_blank ha, dropSpace_cons hspace, readItem_blank ha]
  split
  · next heq => cases heq
  · next heq =>
    cases heq
    exact absurd rfl hclose
  · rfl

/-- What is read behind an element: the end of the array or the next element. -/
def behindItem (fuel : Nat) (r : Reading) : Text → Items × Option Text
  | [] => (.item r (.cut .ended), none)
  | some ']' :: t => (.item r .close, some t)
  | some ',' :: t => (.item r (readItem fuel t).1, (readItem fuel t).2)
  | _ => (.item r (.cut .malformed), none)

theorem readItem_behind {fuel : Nat} {t u : Text} {r : Reading} (h : readValue fuel t = (r, some u)) :
    readItem (fuel + 1) t = behindItem fuel r (dropSpace u) := by
  rw [readItem, h]
  rfl

/-- What is read behind an entry: the end of the object or the next entry. -/
def behindField (fuel : Nat) (key : Scan String) (r : Reading) : Text → Fields × Option Text
  | [] => (.field key r (.cut .ended), none)
  | some '\x7d' :: t => (.field key r .close, some t)
  | some ',' :: t => (.field key r (readFields fuel false t).1, (readFields fuel false t).2)
  | _ => (.field key r (.cut .malformed), none)

theorem readFields_behind {k : Option String} {ks : List Char} (hk : SpellsString k ks) {b : List Char}
    (hb : Blank b) {fuel : Nat} {t u : Text} {r : Reading} (h : readValue fuel t = (r, some u)) (first : Bool) :
    readFields (fuel + 1) first (ks.map some ++ (b.map some ++ some ':' :: t)) =
      behindField fuel (stringScan k) r (dropSpace u) := by
  obtain ⟨v, hv, hscan⟩ := scanString_spells hk (b.map some ++ some ':' :: t)
  have hskip : (stringScan k).skip = .ok () := by cases k <;> rfl
  rw [hv, readFields, dropSpace_cons rfl]
  simp only [hscan, hskip, dropSpace_blank hb, dropSpace_cons (c := ':') rfl, h]
  rfl

mutual

/-- Whatever value is spelled in front of a text is read, and the text behind it is left. -/
theorem readValue_spells {v : Value} {cs : List Char} (h : Spells v cs) {fuel : Nat}
    (hfuel : 3 * cs.length ≤ fuel) {rest : Text} (hrest : EndsNumeral rest) :
    readValue fuel (cs.map some ++ rest) = (v.reading, some rest) := by
  obtain ⟨fuel, rfl⟩ : ∃ n, fuel = n + 1 := by
    obtain ⟨c, ds, rfl, -⟩ := h.start
    exact ⟨fuel - 1, by simp only [List.length_cons] at hfuel; omega⟩
  cases h with
  | null => rfl
  | yes => rfl
  | no => rfl
  | @number l _ h =>
    have hscan := scanNumber_spells h hrest
    obtain ⟨c, ds, rfl, hc⟩ := h.start
    rw [List.map_cons, List.cons_append] at hscan ⊢
    rw [readValue_number hc, hscan, Value.reading]
    rfl
  | @string s _ h =>
    obtain ⟨t, ht, hscan⟩ := scanString_spells h rest
    rw [ht, readValue_string, hscan, Value.reading]
    cases s <;> rfl
  | @emptyArray a ha =>
    simp only [List.length_cons, List.length_append] at hfuel
    obtain ⟨fuel, rfl⟩ : ∃ n, fuel = n + 1 := ⟨fuel - 1, by omega⟩
    simp only [List.map_cons, List.map_append, List.map_nil, List.cons_append, List.append_assoc,
      List.nil_append]
    rw [readValue_array, readFirstItem_blank ha, Value.reading, itemsOf]
  | @array vs cs h =>
    simp only [List.length_cons, List.length_append] at hfuel
    obtain ⟨fuel, rfl⟩ : ∃ n, fuel = n + 1 := ⟨fuel - 1, by omega⟩
    simp only [List.map_cons, List.map_append, List.map_nil, List.cons_append, List.append_assoc,
      List.nil_append]
    rw [readValue_array, readFirstItem_spells h, readItem_spells h (by omega) rest, Value.reading]
  | @emptyObject a ha =>
    simp only [List.length_cons, List.length_append] at hfuel
    obtain ⟨fuel, rfl⟩ : ∃ n, fuel = n + 1 := ⟨fuel - 1, by omega⟩
    simp only [List.map_cons, List.map_append, List.map_nil, List.cons_append, List.append_assoc,
      List.nil_append]
    rw [readValue_object, readFields_blank ha, readFields, dropSpace_cons rfl, Value.reading, fieldsOf]
    rfl
  | @object fields cs h =>
    simp only [List.length_cons, List.length_append] at hfuel
    simp only [List.map_cons, List.map_append, List.map_nil, List.cons_append, List.append_assoc,
      List.nil_append]
    rw [readValue_object, readFields_spells h (by omega) true rest, Value.reading]

theorem readItem_spells {vs : List Value} {cs : List Char} (h : SpellsItems vs cs) {fuel : Nat}
    (hfuel : 3 * cs.length + 1 ≤ fuel) (rest : Text) :
    readItem fuel (cs.map some ++ some ']' :: rest) = (itemsOf vs, some rest) := by
  obtain ⟨fuel, rfl⟩ : ∃ n, fuel = n + 1 := ⟨fuel - 1, by omega⟩
  cases h with
  | @one v a cs b ha hv hb =>
    simp only [List.length_append] at hfuel
    simp only [List.map_append, List.append_assoc]
    have hread := readValue_spells hv (show 3 * cs.length ≤ fuel by omega)
      (endsNumeral_blank hb (endsNumeral_token (Or.inr (Or.inl rfl)) rest))
    rw [readItem_behind ((readValue_blank ha _ _).trans hread), dropSpace_blank hb, dropSpace_cons rfl]
    rfl
  | @more v vs a cs b ds ha hv hb hvs =>
    simp only [List.length_append, List.length_cons] at hfuel
    simp only [List.map_append, List.append_assoc, List.map_cons, List.cons_append]
    have hread := readValue_spells hv (show 3 * cs.length ≤ fuel by omega)
      (endsNumeral_blank hb (endsNumeral_token (Or.inl rfl) (ds.map some ++ some ']' :: rest)))
    have hitems := readItem_spells hvs (show 3 * ds.length + 1 ≤ fuel by omega) rest
    rw [readItem_behind ((readValue_blank ha _ _).trans hread), dropSpace_blank hb, dropSpace_cons rfl, behindItem,
      hitems, itemsOf]

theorem readFields_spells {fields : List (Option String × Value)} {cs : List Char} (h : SpellsFields fields cs)
    {fuel : Nat} (hfuel : 3 * cs.length + 1 ≤ fuel) (first : Bool) (rest : Text) :
    readFields fuel first (cs.map some ++ some '\x7d' :: rest) = (fieldsOf fields, some rest) := by
  obtain ⟨fuel, rfl⟩ : ∃ n, fuel = n + 1 := ⟨fuel - 1, by omega⟩
  cases h with
  | @one k v a ks b c cs d ha hk hb hc hv hd =>
    simp only [List.length_append, List.length_cons] at hfuel
    simp only [List.map_append, List.append_assoc, List.map_cons, List.cons_append]
    have hread := readValue_spells hv (show 3 * cs.length ≤ fuel by omega)
      (endsNumeral_blank hd (endsNumeral_token (Or.inr (Or.inr rfl)) rest))
    rw [readFields_blank ha, readFields_behind hk hb ((readValue_blank hc _ _).trans hread), dropSpace_blank hd,
      dropSpace_cons rfl]
    rfl
  | @more k v fields a ks b c cs d ds ha hk hb hc hv hd hfields =>
    simp only [List.length_append, List.length_cons] at hfuel
    simp only [List.map_append, List.append_assoc, List.map_cons, List.cons_append]
    have hread := readValue_spells hv (show 3 * cs.length ≤ fuel by omega)
      (endsNumeral_blank hd (endsNumeral_token (Or.inl rfl) (ds.map some ++ some '\x7d' :: rest)))
    have hothers := readFields_spells hfields (show 3 * ds.length + 1 ≤ fuel by omega) false rest
    rw [readFields_blank ha, readFields_behind hk hb ((readValue_blank hc _ _).trans hread), dropSpace_blank hd,
      dropSpace_cons rfl, behindField, hothers, fieldsOf]

end

/-- A whole text is read as the value it spells, with nothing behind it. -/
theorem ofText_spells {v : Value} {s : String} (h : SpellsText v s) :
    Document.ofText (.ofString s) = ⟨v.reading, .ok ()⟩ := by
  obtain ⟨a, cs, b, ha, hv, hb, hs⟩ := h
  have hfuel : 3 * cs.length ≤ 3 * (Text.ofString s).length + 3 := by
    simp only [Text.ofString, hs, List.length_map, List.length_append]
    omega
  have hread := readValue_spells hv hfuel (endsNumeral_blank hb endsNumeral_nil)
  have htext : Text.ofString s = a.map some ++ (cs.map some ++ (b.map some ++ [])) := by
    simp [Text.ofString, hs]
  have hempty : dropSpace (b.map some ++ []) = [] := dropSpace_blank hb []
  rw [← readValue_blank ha, ← htext] at hread
  rw [Document.ofText, hread]
  dsimp only
  rw [hempty]
  rfl

end Mend.Json
