import Mend.Json.Number

/-!
# JSON text as a tree

A text is read into a tree that also records where and how it breaks off. Whoever walks the tree
from left to right meets values and faults in the order of the text, and decides at every scalar
whether its value is wanted or only its end.

* `Reading`, `Items`, `Fields` : the tree; `cut` ends a sequence that was not closed;
* `readValue` : the tree of the value in front of a text;
* `Reading.ofText` : the tree of a whole text, and whether nothing follows the value;
* `Reading.skip` : gets past a value;
* `Reading.check` : reads a value and everything in it, down to a number of levels.
-/

namespace Mend.Json

mutual

/-- A value of a JSON text, or the fault in its place. -/
inductive Reading where
  | fault (f : Fault)
  | null
  | bool (b : Bool)
  | number (scan : Scan Number)
  | string (scan : Scan String)
  | array (items : Items)
  | object (fields : Fields)

/-- The elements of an array up to its bracket or a fault. -/
inductive Items where
  | close
  | cut (f : Fault)
  | item (value : Reading) (rest : Items)

/-- The entries of an object up to its brace or a fault. -/
inductive Fields where
  | close
  | cut (f : Fault)
  | field (key : Scan String) (value : Reading) (rest : Fields)

end

instance : Inhabited Reading := ⟨.null⟩

/-- A scalar with what follows it; nothing follows one that cannot even be skipped. -/
def resume {α : Type} (scan : Scan α) (rest : Text) : Option Text :=
  match scan.skip with
  | .ok () => some rest
  | .error _ => none

def word (cs : List Char) (value : Reading) (t : Text) : Reading × Option Text :=
  match keyword cs t with
  | .ok rest => (value, some rest)
  | .error f => (.fault f, none)

mutual

/-- The value in front of a text, and what follows it if the text can be read on. The fuel bounds the
number of steps; three for every symbol of the text are enough. -/
def readValue : Nat → Text → Reading × Option Text
  | 0, _ => (.fault .malformed, none)
  | fuel + 1, t =>
    match dropSpace t with
    | some 'n' :: t => word ['u', 'l', 'l'] .null t
    | some 't' :: t => word ['r', 'u', 'e'] (.bool true) t
    | some 'f' :: t => word ['a', 'l', 's', 'e'] (.bool false) t
    | some '"' :: t =>
      let (scan, rest) := scanString t
      (.string scan, resume scan rest)
    | some '[' :: t =>
      let (items, rest) := readFirstItem fuel t
      (.array items, rest)
    | some '\x7b' :: t =>
      let (fields, rest) := readFields fuel true t
      (.object fields, rest)
    | some c :: t =>
      if c.isDigit ∨ c = '-' then
        let (scan, rest) := scanNumber (some c :: t)
        (.number scan, resume scan rest)
      else (.fault .malformed, none)
    | t => (.fault (faultAt t), none)

/-- The elements behind an opening bracket. -/
def readFirstItem : Nat → Text → Items × Option Text
  | 0, _ => (.cut .malformed, none)
  | fuel + 1, t =>
    match dropSpace t with
    | [] => (.cut .ended, none)
    | some ']' :: t => (.close, some t)
    | t => readItem fuel t

def readItem : Nat → Text → Items × Option Text
  | 0, _ => (.cut .malformed, none)
  | fuel + 1, t =>
    match readValue fuel t with
    | (value, none) => (.item value (.cut .malformed), none)
    | (value, some t) =>
      match dropSpace t with
      | [] => (.item value (.cut .ended), none)
      | some ']' :: t => (.item value .close, some t)
      | some ',' :: t =>
        let (rest, t) := readItem fuel t
        (.item value rest, t)
      | _ => (.item value (.cut .malformed), none)

/-- The entries that follow, the first ones of the object if `first` is set. -/
def readFields : Nat → Bool → Text → Fields × Option Text
  | 0, _, _ => (.cut .malformed, none)
  | fuel + 1, first, t =>
    match dropSpace t with
    | [] => (.cut .ended, none)
    | some '\x7d' :: t => if first then (.close, some t) else (.cut .malformed, none)
    | some '"' :: t =>
      match scanString t with
      | (key, t) =>
        match key.skip with
        | .error f => (.field key (.fault f) (.cut f), none)
        | .ok () =>
          match dropSpace t with
          | some ':' :: t =>
            match readValue fuel t with
            | (value, none) => (.field key value (.cut .malformed), none)
            | (value, some t) =>
              match dropSpace t with
              | [] => (.field key value (.cut .ended), none)
              | some '\x7d' :: t => (.field key value .close, some t)
              | some ',' :: t =>
                let (rest, t) := readFields fuel false t
                (.field key value rest, t)
              | _ => (.field key value (.cut .malformed), none)
          | t => (.field key (.fault (faultAt t)) (.cut .malformed), none)
    | _ => (.cut .malformed, none)

end

/-- A whole text: its value, and the fault of what follows it. -/
structure Document where
  value : Reading
  trailing : Except Fault Unit

def Document.ofText (t : Text) : Document :=
  match readValue (3 * t.length + 3) t with
  | (value, none) => ⟨value, .error .malformed⟩
  | (value, some rest) => ⟨value, if (dropSpace rest).isEmpty then .ok () else .error .malformed⟩

mutual

/-- Gets past a value without asking what it is. -/
def Reading.skip : Reading → Except Fault Unit
  | .fault f => .error f
  | .null => .ok ()
  | .bool _ => .ok ()
  | .number scan => scan.skip
  | .string scan => scan.skip
  | .array items => items.skip
  | .object fields => fields.skip

/-- Gets past the elements of an array. -/
def Items.skip : Items → Except Fault Unit
  | .close => .ok ()
  | .cut f => .error f
  | .item value rest => do
    value.skip
    rest.skip

/-- Gets past the entries of an object. -/
def Fields.skip : Fields → Except Fault Unit
  | .close => .ok ()
  | .cut f => .error f
  | .field key value rest => do
    key.skip
    value.skip
    rest.skip

end

mutual

/-- Reads a value and everything in it; a value with more than `room` levels of brackets is refused
where it opens the next one. -/
def Reading.check (room : Nat) : Reading → Except Fault Unit
  | .fault f => .error f
  | .null => .ok ()
  | .bool _ => .ok ()
  | .number scan => scan.value.map fun _ => ()
  | .string scan => scan.value.map fun _ => ()
  | .array items => if room = 0 then .error .malformed else items.check (room - 1)
  | .object fields => if room = 0 then .error .malformed else fields.check (room - 1)

def Items.check (room : Nat) : Items → Except Fault Unit
  | .close => .ok ()
  | .cut f => .error f
  | .item value rest => do
    value.check room
    rest.check room

def Fields.check (room : Nat) : Fields → Except Fault Unit
  | .close => .ok ()
  | .cut f => .error f
  | .field key value rest => do
    let _ ← key.value
    value.check room
    rest.check room

end

end Mend.Json
