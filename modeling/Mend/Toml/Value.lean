/-!
# Values of TOML documents

A document is a table. What a later line may still do to a table hangs on how it came about, so a
table keeps that with its entries.

* `Made` : how a table came about;
* `Value` : the values, with `tables` for the elements of one repeated header;
* `Entries` : what a table holds, in the order of first mention;
* `within` : changes the table at the end of a path of keys;
* `Entries.assign`, `Entries.openTable`, `Entries.openElement` : the three statements of a document.
-/

namespace Mend.Toml

/-- How a table came about: in braces, by its own header, on the way to the table of another header,
or on the way to a dotted key. -/
inductive Made where
  | inline
  | header
  | implied
  | dotted
deriving DecidableEq, Repr

/-- A value. Reals and times are kept as they are written. -/
inductive Value where
  | string (text : String)
  | integer (n : Int)
  | real (text : String)
  | boolean (b : Bool)
  | time (text : String)
  | array (items : List Value)
  | table (made : Made) (entries : List (String × Value))
  | tables (newest : List (String × Value)) (older : List (List (String × Value)))

instance : Inhabited Value := ⟨.boolean false⟩

/-- The entries of a table; no key occurs twice. -/
abbrev Entries := List (String × Value)

/-- Whether a path may lead through a table. Braces close a table for good, and a dotted key does not
reach into a table that has its own header. -/
def Made.isOpen (dotted : Bool) : Made → Bool
  | .inline => false
  | .header => !dotted
  | .implied | .dotted => true

namespace Entries

def get? (es : Entries) (key : String) : Option Value :=
  es.lookup key

/-- Gives a key a value, in its place if it has one already. -/
def set (es : Entries) (key : String) (v : Value) : Entries :=
  match es with
  | [] => [(key, v)]
  | (k, old) :: rest => if k = key then (k, v) :: rest else (k, old) :: set rest key v

end Entries

/-- Changes the table at the end of `path`, below a table that came about as `made`. Tables that are
missing on the way are made; a repeated header stands for its newest element. There is no way through
a value that is no table, nor through a closed table. -/
def within (dotted : Bool) (change : Made → Entries → Option Entries) :
    List String → Made → Entries → Option Entries
  | [], made, es => change made es
  | key :: path, _, es =>
    match es.get? key with
    | none => do
      let made : Made := if dotted then .dotted else .implied
      return es.set key (.table made (← within dotted change path made []))
    | some (.table made inner) =>
      if made.isOpen dotted then do
        return es.set key (.table made (← within dotted change path made inner))
      else none
    | some (.tables newest older) => do
      return es.set key (.tables (← within dotted change path .header newest) older)
    | some _ => none

namespace Entries

/-- Adds a key that has no value yet. Behind dots, only a table that dots have made takes it. -/
def add (dotted : Bool) (key : String) (v : Value) (made : Made) (es : Entries) : Option Entries :=
  if decide (made = .dotted) = dotted ∧ (es.get? key).isNone then some (es.set key v) else none

def assign (path : List String) (key : String) (v : Value) : Made → Entries → Option Entries :=
  within true (add (!path.isEmpty) key v) path

/-- The header `[path.key]`, read from the top of the document. -/
def openTable (path : List String) (key : String) (es : Entries) : Option Entries :=
  within false (fun _ inner =>
    match inner.get? key with
    | none => some (inner.set key (.table .header []))
    | some (.table .implied found) => some (inner.set key (.table .header found))
    | some _ => none) path .header es

/-- The header `[[path.key]]`, read from the top of the document. -/
def openElement (path : List String) (key : String) (es : Entries) : Option Entries :=
  within false (fun _ inner =>
    match inner.get? key with
    | none => some (inner.set key (.tables [] []))
    | some (.tables newest older) => some (inner.set key (.tables [] (newest :: older)))
    | some _ => none) path .header es

end Entries

end Mend.Toml
