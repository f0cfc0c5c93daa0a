import Mend.Process.Regex.Parser
import Mend.Process.Utility.Printing

/-!
# Lines of files

* `cat`, `tee` : files one behind another, and what is read written to files;
* `head`, `tail` : the first or the last lines;
* `wc` : counts;
* `sort`, `uniq`, `cut`, `tr`, `seq` : lines in order, without repetitions, in parts, with other
  characters, and of numbers.
-/

namespace Mend.Process

def refusing (tool : String) (status : Nat) (s : Setting) (message : String) : Leavings :=
  .failing s status (message ++ "\nTry '" ++ tool ++ " --help' for more information.")

/-- Reads arguments and goes on with them, or complains. -/
def withArguments (u : Usage) (status : Nat) (run : Invocation → Setting → Leavings) : Utility :=
  fun args s =>
    match u.sort args with
    | .ok i => run i s
    | .error e => refusing u.tool status s (e.message u.tool)

/-! ## Whole files -/

def visible (tabs : Bool) (c : Char) : List Char :=
  let low (n : Nat) : List Char :=
    if n < 32 then ['^', Char.ofNat (n + 64)] else if n = 127 then ['^', '?'] else [Char.ofNat n]
  if c = '\n' || (c = '\t' && !tabs) then [c]
  else if 128 ≤ c.toNat then 'M' :: '-' :: low (c.toNat - 128)
  else low c.toNat

def lineNumber (n : Nat) : List Char :=
  let ds := Nat.toDigits 10 n
  List.replicate (6 - ds.length) ' ' ++ ds ++ ['\t']

structure Display where
  numbers : Bool
  numbersFilled : Bool
  squeezes : Bool
  ends : Bool
  tabs : Bool
  marks : Bool

/-- Lines as they are shown, with the number of the next one; `blank` tells whether the line in front is
blank. -/
def Display.lines (d : Display) : Nat → Bool → List (List Char) → List (List Char)
  | _, _, [] => []
  | n, blank, l :: ls =>
    let isBlank := l = ['\n']
    if d.squeezes && blank && isBlank then d.lines n true ls
    else
      let numbered := if d.numbersFilled then !isBlank else d.numbers
      let front := if numbered then lineNumber n else []
      let (body, stop) := if l.getLast? = some '\n' then (l.dropLast, ['\n']) else (l, [])
      let shown (c : Char) : List Char :=
        if c = '\t' && d.tabs then ['^', 'I'] else if d.marks then visible d.tabs c else [c]
      (front ++ body.flatMap shown ++ (if d.ends && !stop.isEmpty then ['$'] else []) ++ stop) ::
        d.lines (if numbered then n + 1 else n) isBlank ls

def fullLines (text : List Char) : List (List Char) :=
  let (ls, complete) := splitLines text
  ls.mapIdx fun i l => if i + 1 < ls.length || complete then l ++ ['\n'] else l

/-- Prints files one behind another, except one that it would write to without end. -/
def cat : Utility :=
  withArguments
    ⟨"cat", ['n', 'b', 's', 'E', 'T', 'A', 'v', 'e', 't', 'u'], [],
      [("number", 'n'), ("number-nonblank", 'b'), ("squeeze-blank", 's'), ("show-ends", 'E'),
       ("show-tabs", 'T'), ("show-all", 'A'), ("show-nonprinting", 'v')]⟩ 1
    fun i s =>
      let names := if i.operands.isEmpty then ["-"] else i.operands
      let results := names.map fun name =>
        match s.read name with
        | .error e => Except.error (complaint "cat" name e)
        | .ok text =>
          if !Setting.isInput name && s.isSink name && !text.isEmpty then
            Except.error (.err ("cat: " ++ name ++ ": input file is output file\n"))
          else Except.ok text
      let failed := results.any fun r => !r.isOk
      let all := i.has 'A'
      let d : Display :=
        { numbers := i.has 'n', numbersFilled := i.has 'b', squeezes := i.has 's'
          ends := all || i.has 'E' || i.has 'e', tabs := all || i.has 'T' || i.has 't'
          marks := all || i.has 'v' || i.has 'e' || i.has 't' }
      let plain := !(d.numbers || d.numbersFilled || d.squeezes || d.ends || d.tabs || d.marks)
      let writes := if plain then results.map fun r => match r with
          | .ok text => .out text
          | .error w => w
        else
          let text := String.join (results.filterMap (·.toOption))
          let errors := results.filterMap fun r => match r with
            | .ok _ => none
            | .error w => some w
          .out (String.ofList (d.lines 1 false (fullLines text.toList)).flatten) :: errors
      ⟨if failed then 1 else 0, writes, s.tree, s.offsetAfter names⟩

def tee : Utility := withArguments ⟨"tee", ['a', 'i', 'p'], [], [("append", 'a')]⟩ 1 fun i s =>
  let text := s.feed.text
  let (tree, writes) := i.operands.foldl
    (fun (tree, writes) name =>
      let before := if i.has 'a' then ((tree.read (pathOf name)).toOption).getD .empty else .empty
      match tree.write (pathOf name) (before ++ bytesOf text) with
      | .ok tree => (tree, writes)
      | .error e => (tree, writes ++ [complaint "tee" name e]))
    (s.tree, [])
  ⟨if writes.isEmpty then 0 else 1, .out text :: writes, tree, s.feed.finish⟩

/-! ## Ends of files -/

/-- What is kept of a file: lines or characters, so many of them, counted from the front or the back. -/
structure Cut where
  characters : Bool
  count : Nat
  signed : Option Char

def Cut.units (c : Cut) (text : List Char) : List (List Char) :=
  if c.characters then text.map ([·]) else fullLines text

def Cut.front (c : Cut) (text : List Char) : List Char :=
  let us := c.units text
  (us.take (if c.signed = some '-' then us.length - c.count else c.count)).flatten

def Cut.back (c : Cut) (text : List Char) : List Char :=
  let us := c.units text
  (us.drop (if c.signed = some '+' then c.count - 1 else us.length - c.count)).flatten

/-- The arguments of programs that keep an end of a file, with an old form of the count made new. -/
def modernCount : List String → List String
  | a :: rest =>
    match a.toList with
    | '-' :: d :: ds => if d.isDigit then ("-n" ++ String.ofList (d :: ds)) :: rest else a :: rest
    | '+' :: d :: ds =>
      if d.isDigit && ds.all Char.isDigit then ("-n+" ++ String.ofList (d :: ds)) :: rest else a :: rest
    | _ => a :: rest
  | [] => []

/-- Prints one end of each file; several have titles. -/
def ends (tool : String) (last : Bool) : Utility := fun args =>
  withArguments ⟨tool, ['q', 'v', 'z', 'f'], ['n', 'c'],
      [("lines", 'n'), ("bytes", 'c'), ("quiet", 'q'), ("verbose", 'v')]⟩ 1
    (fun i s =>
      let option := (i.options.reverse.find? fun o => o.1 = 'n' || o.1 = 'c').getD ('n', "10")
      let (signed, digits) := match option.2.toList with
        | '-' :: ds => (some '-', ds)
        | '+' :: ds => (some '+', ds)
        | ds => (none, ds)
      match Text.Decimal.digits? digits with
      | none =>
        .failing s 1 (tool ++ ": invalid number of " ++ (if option.1 = 'n' then "lines" else "bytes") ++
          ": '" ++ option.2 ++ "'")
      | some count =>
        let cut : Cut := ⟨option.1 = 'c', count, signed⟩
        let names := if i.operands.isEmpty then ["-"] else i.operands
        let titled := (1 < names.length || i.has 'v') && !i.has 'q'
        let writes := names.mapIdx fun n name =>
          match s.read name with
          | .error .isADirectory =>
            Write.err (tool ++ ": error reading '" ++ name ++ "': Is a directory\n")
          | .error e => Write.err (tool ++ ": cannot open '" ++ name ++ "' for reading: " ++ e.reason ++ "\n")
          | .ok text =>
            let title := if name = "-" then "standard input" else name
            let heading := if titled then
                (if n = 0 then "" else "\n") ++ "==> " ++ title ++ " <==\n"
              else ""
            let part := if last then cut.back text.toList else cut.front text.toList
            Write.out (heading ++ String.ofList part)
        let offset := if !names.any Setting.isInput then s.feed.offset
          else if last || signed = some '-' then s.feed.finish
          else s.feed.after (cut.front s.feed.text.toList).length
        ⟨if writes.any (·.isComplaint) then 1 else 0, writes, s.tree, offset⟩)
    (modernCount args)

/-! ## Counts -/

def countWords (text : List Char) : Nat :=
  ((text.splitOnP isSpaceChar).filter fun w => !w.isEmpty).length

def longestLine (text : List Char) : Nat :=
  (splitLines text).1.foldl (fun n l =>
    max n (l.foldl (fun k c => if c = '\t' then k + (8 - k % 8) else if 32 ≤ c.toNat && c.toNat < 127 then k + 1 else k) 0)) 0

/-- Prints the number of lines, words or bytes of files. -/
def wc : Utility :=
  withArguments ⟨"wc", ['l', 'w', 'c', 'm', 'L'], [],
    [("lines", 'l'), ("words", 'w'), ("bytes", 'c'), ("chars", 'm'), ("max-line-length", 'L')]⟩ 1
    fun i s =>
      let plain := i.options.isEmpty
      let kinds := ['l', 'w', 'm', 'c', 'L'].filter fun c => i.has c || (plain && (c = 'l' || c = 'w' || c = 'c'))
      let count (c : Char) (text : List Char) : Nat :=
        match c with
        | 'l' => text.count '\n'
        | 'w' => countWords text
        | 'L' => longestLine text
        | _ => text.length
      let names := if i.operands.isEmpty then ["-"] else i.operands
      let texts := names.map fun name => (name, (s.read name).map (·.toList))
      let regular (name : String) : Bool := if Setting.isInput name then s.feed.seekable else s.tree.isFile (pathOf name)
      let sizes := total (fun (t : String × Except FileError (List Char)) =>
        if regular t.1 then ((t.2.toOption).map List.length).getD 0 else 0) texts
      let least := if texts.any fun t => t.2.toOption.isSome && !regular t.1 ||
          (match t.2 with
            | .error .isADirectory => true
            | _ => false) then 7 else 1
      let width := if names.length = 1 && kinds.length = 1 then 1 else max least (Nat.toDigits 10 sizes).length
      let field (n : Nat) : String :=
        let ds := Nat.toDigits 10 n
        String.ofList (List.replicate (width - ds.length) ' ' ++ ds)
      let row (counts : List Nat) (name : String) : String :=
        " ".intercalate (counts.map field) ++ (if name.isEmpty then "" else " " ++ name) ++ "\n"
      let title (name : String) : String := if i.operands.isEmpty then "" else name
      let writes := texts.flatMap fun (name, result) =>
        match result with
        | .ok text => [Write.out (row (kinds.map fun c => count c text) (title name))]
        | .error .isADirectory =>
          [complaint "wc" name .isADirectory, .out (row (kinds.map fun _ => 0) name)]
        | .error e => [complaint "wc" name e]
      let sums := kinds.map fun c => total (fun (t : String × Except FileError (List Char)) =>
        ((t.2.toOption).map (count c)).getD 0) texts
      let summary := if 1 < names.length then [Write.out (row sums "total")] else []
      ⟨if writes.any (·.isComplaint) then 1 else 0, writes ++ summary, s.tree, s.offsetAfter names⟩

/-! ## Order and repetition -/

/-- The files that are named, one behind another, or the complaint about the first that cannot be
read. -/
def gathered (front : String) (names : List String) (s : Setting) : Except String (List (List Char)) := do
  let texts ← (if names.isEmpty then ["-"] else names).mapM fun name =>
    match s.read name with
    | .ok text => Except.ok (splitLines text.toList).1
    | .error e => Except.error (front ++ name ++ ": " ++ e.reason)
  return texts.flatten

/-- The fields of a line: between separators, or each with the blanks in front of it. -/
def lineKeys (separator : Option Char) (line : List Char) : List (List Char) :=
  match separator with
  | some c => line.splitOn c
  | none =>
    let rec go : Nat → List Char → List (List Char)
      | 0, _ => []
      | fuel + 1, cs =>
        let blanks := cs.takeWhile fun c => c = ' ' || c = '\t'
        let word := (cs.drop blanks.length).takeWhile fun c => !(c = ' ' || c = '\t')
        if blanks.isEmpty && word.isEmpty then []
        else (blanks ++ word) :: go fuel (cs.drop (blanks.length + word.length))
    go (line.length + 1) line

/-- The number in front of a text, with its fraction as a text. -/
def numberKey (cs : List Char) : Int × List Char :=
  let body := cs.dropWhile isSpaceChar
  let (negative, body) := match body with
    | '-' :: body => (true, body)
    | body => (false, body)
  let ds := body.takeWhile Char.isDigit
  let part := match body.drop ds.length with
    | '.' :: rest => rest.takeWhile Char.isDigit
    | _ => []
  let n : Int := Nat.ofDigitChars 10 ds 0
  (if negative then -n else n, part)

/-- Whether one line stands before another, character by character. -/
def lineBefore (a b : List Char) : Bool :=
  a.lex b fun x y => x.toNat < y.toNat

def sort : Utility :=
  withArguments ⟨"sort", ['r', 'n', 'u', 'f', 'b', 's', 'c'], ['k', 't', 'o'],
    [("reverse", 'r'), ("numeric-sort", 'n'), ("unique", 'u'), ("ignore-case", 'f')]⟩ 2
    fun i s =>
      match gathered "sort: cannot read: " i.operands s with
      | .error message => .failing s 2 message
      | .ok ls =>
        let key := (i.value? 'k').map (·.toList)
        let letters := (key.getD []).filter Char.isAlpha
        let numeric := i.has 'n' || letters.contains 'n'
        let reversed := i.has 'r' || letters.contains 'r'
        let folded := i.has 'f' || letters.contains 'f'
        let separator := (i.value? 't').bind (·.toList.head?)
        let part (l : List Char) : List Char :=
          match key with
          | none => l
          | some spec =>
            let first := Nat.ofDigitChars 10 (spec.takeWhile Char.isDigit) 0
            let behind := (spec.dropWhile (· ≠ ',')).drop 1
            let last := Nat.ofDigitChars 10 (behind.takeWhile Char.isDigit) 0
            let fields := (lineKeys separator l).drop (first - 1)
            let fields := if behind.isEmpty then fields else fields.take (last + 1 - first)
            match separator with
            | some c => [c].intercalate fields
            | none => fields.flatten
        let fold (l : List Char) : List Char := if folded then l.map Char.toUpper else l
        let keyBefore (a b : List Char) : Bool :=
          if numeric then
            let (m, x) := numberKey (part a)
            let (n, y) := numberKey (part b)
            m < n || (m = n && x < y)
          else lineBefore (fold (part a)) (fold (part b))
        let before (a b : List Char) : Bool :=
          if keyBefore a b then !reversed
          else if keyBefore b a then reversed
          else i.has 's' || i.has 'u' || !(if reversed then lineBefore a b else lineBefore b a)
        let sorted := ls.mergeSort before
        let same (a b : List Char) : Bool := !keyBefore a b && !keyBefore b a
        let rec distinct : List (List Char) → List (List Char)
          | a :: b :: rest => if same a b then distinct (a :: rest) else a :: distinct (b :: rest)
          | rest => rest
        termination_by ls => ls.length
        let result := if i.has 'u' then distinct sorted else sorted
        let text := String.ofList (joinLines result true)
        match i.value? 'o' with
        | some name =>
          match s.tree.write (pathOf name) (bytesOf text) with
          | .ok tree => ⟨0, [], tree, s.offsetAfter i.operands⟩
          | .error e => .failing s 2 ("sort: open failed: " ++ name ++ ": " ++ e.reason)
        | none => ⟨0, [.out text], s.tree, s.offsetAfter i.operands⟩

def runs (same : List Char → List Char → Bool) : List (List Char) → List (List Char × Nat)
  | [] => []
  | l :: ls =>
    match runs same ls with
    | (m, n) :: rest => if same l m then (l, n + 1) :: rest else (l, 1) :: (m, n) :: rest
    | [] => [(l, 1)]

def uniq : Utility :=
  withArguments ⟨"uniq", ['c', 'd', 'u', 'i'], [],
    [("count", 'c'), ("repeated", 'd'), ("unique", 'u'), ("ignore-case", 'i')]⟩ 1
    fun i s =>
      match gathered "uniq: " (i.operands.take 1) s with
      | .error message => .failing s 1 message
      | .ok ls =>
        let fold (l : List Char) : List Char := if i.has 'i' then l.map Char.toLower else l
        let found := runs (fun a b => fold a == fold b) ls
        let kept := found.filter fun r => (!i.has 'd' || 1 < r.2) && (!i.has 'u' || r.2 = 1)
        let shown := kept.map fun (l, n) =>
          if i.has 'c' then
            let ds := Nat.toDigits 10 n
            List.replicate (7 - ds.length) ' ' ++ ds ++ ' ' :: l
          else l
        ⟨0, [.out (String.ofList (joinLines shown true))], s.tree, s.offsetAfter (i.operands.take 1)⟩

/-! ## Parts of lines -/

def inRanges (spec : List Char) (n : Nat) : Bool :=
  (spec.splitOn ',').any fun r =>
    let low := r.takeWhile Char.isDigit
    match r.drop low.length with
    | '-' :: high =>
      (low.isEmpty || Nat.ofDigitChars 10 low 0 ≤ n) && (high.isEmpty || n ≤ Nat.ofDigitChars 10 high 0)
    | _ => Nat.ofDigitChars 10 low 0 = n

def cut : Utility :=
  withArguments ⟨"cut", ['s'], ['d', 'f', 'c', 'b'],
    [("delimiter", 'd'), ("fields", 'f'), ("characters", 'c'), ("bytes", 'b'), ("only-delimited", 's')]⟩ 1
    fun i s =>
      match gathered "cut: " i.operands s with
      | .error message => .failing s 1 message
      | .ok ls =>
        let delimiter := ((i.value? 'd').bind (·.toList.head?)).getD '\t'
        let pick {α : Type} (spec : List Char) (xs : List α) : List α :=
          (xs.mapIdx fun n x => (n + 1, x)).filterMap fun (n, x) => if inRanges spec n then some x else none
        match i.value? 'f', (i.value? 'c').or (i.value? 'b') with
        | some spec, _ =>
          let shown := ls.filterMap fun l =>
            if l.contains delimiter then
              some ([delimiter].intercalate (pick spec.toList (l.splitOn delimiter)))
            else if i.has 's' then none else some l
          ⟨0, [.out (String.ofList (joinLines shown true))], s.tree, s.offsetAfter i.operands⟩
        | none, some spec =>
          ⟨0, [.out (String.ofList (joinLines (ls.map (pick spec.toList)) true))], s.tree,
            s.offsetAfter i.operands⟩
        | none, none => refusing "cut" 1 s "cut: you must specify a list of bytes, characters, or fields"

/-! ## Other characters -/

/-- The characters of a set: ranges, classes and escapes. -/
def setChars : Nat → List Char → List Char
  | 0, _ => []
  | _ + 1, [] => []
  | fuel + 1, cs =>
    match cs with
    | '[' :: ':' :: rest =>
      match untilMark ':' rest with
      | some (name, behind) =>
        match namedClass? (String.ofList name) with
        | some test => ((List.range 256).map Char.ofNat).filter test ++ setChars fuel behind
        | none => '[' :: setChars fuel (':' :: rest)
      | none => '[' :: setChars fuel (':' :: rest)
    | _ =>
      let first (cs : List Char) : Char × List Char := match cs with
        | '\\' :: rest => Printing.escape rest
        | c :: rest => (c, rest)
        | [] => ('\x00', [])
      let (low, rest) := first cs
      match rest with
      | '-' :: d :: more =>
        let (high, behind) := first (d :: more)
        ((List.range (high.toNat + 1 - low.toNat)).map fun n => Char.ofNat (low.toNat + n)) ++
          setChars fuel behind
      | rest => low :: setChars fuel rest

/-- Characters without those that follow themselves and are in a set. -/
def squeezed (members : List Char) : List Char → List Char
  | a :: b :: rest =>
    if a = b && members.contains a then squeezed members (b :: rest) else a :: squeezed members (b :: rest)
  | rest => rest

/-- Puts other characters for those of its input, or leaves some out. -/
def tr : Utility :=
  withArguments ⟨"tr", ['d', 's', 'c', 'C', 't'], [],
    [("delete", 'd'), ("squeeze-repeats", 's'), ("complement", 'c')]⟩ 1
    fun i s =>
      let sets := i.operands.map fun a => setChars (a.length + 1) a.toList
      let complement (cs : List Char) : List Char :=
        ((List.range 256).map Char.ofNat).filter fun c => !cs.contains c
      let text := s.feed.text.toList
      let finish (cs : List Char) : Leavings := ⟨0, [.out (String.ofList cs)], s.tree, s.feed.finish⟩
      match sets with
      | [] => refusing "tr" 1 s "tr: missing operand"
      | one :: others =>
        let one := if i.has 'c' || i.has 'C' then complement one else one
        if i.has 'd' then
          let kept := text.filter fun c => !one.contains c
          finish (match i.has 's', others with
            | true, two :: _ => squeezed two kept
            | _, _ => kept)
        else
          match others with
          | [] =>
            if i.has 's' then finish (squeezed one text)
            else refusing "tr" 1 s ("tr: missing operand after '" ++ i.operands.headD "" ++ "'")
          | two :: _ =>
            let last := two.getLast?.getD ' '
            let targets := two ++ List.replicate (one.length - two.length) last
            let table := (one.zip targets).reverse
            let changed := text.map fun c => (table.lookup c).getD c
            finish (if i.has 's' then squeezed targets changed else changed)

/-! ## Numbers -/

def countUp : Nat → Int → Int → Int → List Int
  | 0, _, _, _ => []
  | fuel + 1, n, step, stop =>
    if (0 ≤ step && stop < n) || (step < 0 && n < stop) then [] else n :: countUp fuel (n + step) step stop

def seq : Utility := fun args s =>
  let (separator, args) := match args with
    | "-s" :: t :: rest => (t, rest)
    | a :: rest =>
      match a.toList with
      | '-' :: 's' :: t => (String.ofList t, rest)
      | _ => ("\n", args)
    | [] => ("\n", [])
  let numbers := args.mapM fun a => Text.Decimal.integer? a.toList
  let finish (a b c : Int) : Leavings :=
    if b = 0 then .failing s 1 "seq: invalid Zero increment value: '0'"
    else
      let ns := countUp ((c - a).natAbs + 1) a b c
      .printing s (if ns.isEmpty then "" else separator.intercalate (ns.map Text.Decimal.ofInt) ++ "\n")
  match numbers with
  | some [last] => finish 1 1 last
  | some [first, last] => finish first 1 last
  | some [first, step, last] => finish first step last
  | some [] => refusing "seq" 1 s "seq: missing operand"
  | some (_ :: _ :: _ :: extra :: _) => refusing "seq" 1 s ("seq: extra operand '" ++ Text.Decimal.ofInt extra ++ "'")
  | none => refusing "seq" 1 s ("seq: invalid floating point argument: '" ++ args.headD "" ++ "'")

end Mend.Process
