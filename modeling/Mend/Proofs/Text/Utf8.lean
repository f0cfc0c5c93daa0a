import Mathlib.Algebra.Group.Nat.Defs
import Mend.Text.Utf8

/-!
# Reading UTF-8

Bytes that are a text are read as that text. Other bytes are read with U+FFFD in their holes, which keeps every
character of ASCII where it is: none is lost in a hole, and none is made of other bytes.

* `text?_eq_some_iff` : the bytes that are a text;
* `shown` : the characters of bytes; `shown_encoded` : those of a text;
* `State.Sound` : what a reader has taken is no overlong form;
* `shown_ascii`, `mem_of_mem_shown` : characters of ASCII stand for themselves, and for nothing else.
-/

namespace Mend.Text.Utf8

theorem text?_eq_some_iff {bytes : ByteArray} {s : String} : text? bytes = some s ↔ bytes = s.toUTF8 := by
  unfold text? String.fromUTF8?
  split
  · next h =>
    constructor
    · intro hs
      cases hs
      rfl
    · intro hs
      exact congrArg some (String.toByteArray_inj.mp hs)
  · next h =>
    refine ⟨nofun, fun hs => absurd ?_ h⟩
    rw [hs]
    exact s.isValidUTF8

/-! ## Single bytes -/

theorem lead?_ascii {b : Nat} (h : b < 0x80) : lead? b = some ⟨b, 0, 0, 0⟩ := by
  rw [lead?, if_pos h]

theorem lead?_two {b : Nat} (hlow : 0xc2 ≤ b) (hhigh : b < 0xe0) : lead? b = some ⟨b - 0xc0, 1, 0x80, 0xbf⟩ := by
  rw [lead?, if_neg (by omega), if_neg (by omega), if_pos hhigh]

theorem lead?_three {b t : Nat} (hlow : 0xe0 ≤ b) (hhigh : b < 0xf0) (ht : 0x80 ≤ t ∧ t ≤ 0xbf)
    (hoverlong : b = 0xe0 → 0xa0 ≤ t) (hsurrogate : b = 0xed → t ≤ 0x9f) :
    ∃ low high, lead? b = some ⟨b - 0xe0, 2, low, high⟩ ∧ low ≤ t ∧ t ≤ high := by
  unfold lead?
  rw [if_neg (by omega), if_neg (by omega), if_neg (by omega)]
  by_cases he0 : b = 0xe0
  · subst he0
    exact ⟨_, _, rfl, hoverlong rfl, ht.2⟩
  · rw [if_neg he0]
    by_cases hed : b = 0xed
    · subst hed
      exact ⟨_, _, rfl, ht.1, hsurrogate rfl⟩
    · rw [if_neg hed, if_pos (by omega)]
      exact ⟨_, _, rfl, ht⟩

theorem lead?_four {b t : Nat} (hlow : 0xf0 ≤ b) (hhigh : b ≤ 0xf4) (ht : 0x80 ≤ t ∧ t ≤ 0xbf)
    (hoverlong : b = 0xf0 → 0x90 ≤ t) (hlast : b = 0xf4 → t ≤ 0x8f) :
    ∃ low high, lead? b = some ⟨b - 0xf0, 3, low, high⟩ ∧ low ≤ t ∧ t ≤ high := by
  unfold lead?
  rw [if_neg (by omega), if_neg (by omega), if_neg (by omega), if_neg (by omega), if_neg (by omega),
    if_neg (by omega)]
  by_cases hf0 : b = 0xf0
  · subst hf0
    exact ⟨_, _, rfl, hoverlong rfl, ht.2⟩
  · rw [if_neg hf0]
    by_cases hf4 : b = 0xf4
    · subst hf4
      exact ⟨_, _, rfl, ht.1, hlast rfl⟩
    · rw [if_pos (by omega)]
      exact ⟨_, _, rfl, ht⟩

section Step

variable {bits taken owed low high : Nat} {b : UInt8} {bs : List UInt8}

theorem symbolsFrom_cons (state : State) (b : UInt8) (bs : List UInt8) :
    symbolsFrom state (b :: bs) = (step state b.toNat).2 ++ symbolsFrom (step state b.toNat).1 bs := by
  cases state <;> rfl

theorem symbolsFrom_lead {tails : Nat} (h : lead? b.toNat = some ⟨bits, tails + 1, low, high⟩) :
    symbolsFrom .between (b :: bs) = symbolsFrom (.inside bits 1 tails low high) bs := by
  rw [symbolsFrom_cons, step, begin, h]
  rfl

theorem symbolsFrom_tail (h : low ≤ b.toNat ∧ b.toNat ≤ high) :
    symbolsFrom (.inside bits taken (owed + 1) low high) (b :: bs) =
      symbolsFrom (.inside (bits * 64 + (b.toNat - 0x80)) (taken + 1) owed 0x80 0xbf) bs := by
  rw [symbolsFrom_cons, step, if_pos (by simpa using h)]
  rfl

theorem symbolsFrom_last (h : low ≤ b.toNat ∧ b.toNat ≤ high) :
    symbolsFrom (.inside bits taken 0 low high) (b :: bs) =
      .char (Char.ofNat (bits * 64 + (b.toNat - 0x80))) :: symbolsFrom .between bs := by
  rw [symbolsFrom_cons, step, if_pos (by simpa using h)]
  rfl

end Step

/-! ## Texts -/

/-- The characters of bytes, with U+FFFD in the holes. -/
def shown (bs : List UInt8) : List Char := (symbolsFrom .between bs).map Symbol.shown

theorem toNat_ofNat {n : Nat} (h : n < 256) : (UInt8.ofNat n).toNat = n := by
  rw [UInt8.toNat_ofNat', Nat.mod_eq_of_lt h]

/-! The bytes of a character of each length: what they promise, and that the bits in them are put together again. -/

section Encoded

variable {v : Nat} (bs : List UInt8)

theorem symbolsFrom_one (h : v < 0x80) :
    symbolsFrom .between (UInt8.ofNat v :: bs) = .char (Char.ofNat v) :: symbolsFrom .between bs := by
  have hb : (UInt8.ofNat v).toNat = v := toNat_ofNat (by omega)
  rw [symbolsFrom_cons, hb, step, begin, lead?_ascii h]
  rfl

theorem symbolsFrom_two (hlow : 0x80 ≤ v) (hhigh : v < 0x800) :
    symbolsFrom .between (UInt8.ofNat (v / 64 % 32 + 192) :: UInt8.ofNat (v % 64 + 128) :: bs) =
      .char (Char.ofNat v) :: symbolsFrom .between bs := by
  have hb : (UInt8.ofNat (v / 64 % 32 + 192)).toNat = v / 64 % 32 + 192 := toNat_ofNat (by omega)
  have ht : (UInt8.ofNat (v % 64 + 128)).toNat = v % 64 + 128 := toNat_ofNat (by omega)
  have hv : (v / 64 % 32 + 192 - 0xc0) * 64 + (v % 64 + 128 - 0x80) = v := by omega
  rw [symbolsFrom_lead (lead?_two (by omega) (by omega)), symbolsFrom_last (by omega), hb, ht, hv]

theorem symbolsFrom_three (hlow : 0x800 ≤ v) (hhigh : v < 0x10000) (hsurrogate : v < 0xd800 ∨ 0xdfff < v) :
    symbolsFrom .between (UInt8.ofNat (v / 4096 % 16 + 224) :: UInt8.ofNat (v / 64 % 64 + 128) ::
        UInt8.ofNat (v % 64 + 128) :: bs) = .char (Char.ofNat v) :: symbolsFrom .between bs := by
  have hb : (UInt8.ofNat (v / 4096 % 16 + 224)).toNat = v / 4096 % 16 + 224 := toNat_ofNat (by omega)
  have ht : (UInt8.ofNat (v / 64 % 64 + 128)).toNat = v / 64 % 64 + 128 := toNat_ofNat (by omega)
  have hu : (UInt8.ofNat (v % 64 + 128)).toNat = v % 64 + 128 := toNat_ofNat (by omega)
  have hv : ((v / 4096 % 16 + 224 - 0xe0) * 64 + (v / 64 % 64 + 128 - 0x80)) * 64 + (v % 64 + 128 - 0x80) = v := by
    omega
  obtain ⟨low, high, hlead, hrange⟩ := lead?_three (b := v / 4096 % 16 + 224) (t := v / 64 % 64 + 128)
    (by omega) (by omega) (by omega) (by omega) (by omega)
  rw [← hb] at hlead
  rw [← ht] at hrange
  rw [symbolsFrom_lead hlead, symbolsFrom_tail hrange, symbolsFrom_last (by omega), hb, ht, hu, hv]

theorem symbolsFrom_four (hlow : 0x10000 ≤ v) (hhigh : v < 0x110000) :
    symbolsFrom .between (UInt8.ofNat (v / 262144 % 8 + 240) :: UInt8.ofNat (v / 4096 % 64 + 128) ::
        UInt8.ofNat (v / 64 % 64 + 128) :: UInt8.ofNat (v % 64 + 128) :: bs) =
      .char (Char.ofNat v) :: symbolsFrom .between bs := by
  have hb : (UInt8.ofNat (v / 262144 % 8 + 240)).toNat = v / 262144 % 8 + 240 := toNat_ofNat (by omega)
  have ht : (UInt8.ofNat (v / 4096 % 64 + 128)).toNat = v / 4096 % 64 + 128 := toNat_ofNat (by omega)
  have hu : (UInt8.ofNat (v / 64 % 64 + 128)).toNat = v / 64 % 64 + 128 := toNat_ofNat (by omega)
  have hw : (UInt8.ofNat (v % 64 + 128)).toNat = v % 64 + 128 := toNat_ofNat (by omega)
  have hv : (((v / 262144 % 8 + 240 - 0xf0) * 64 + (v / 4096 % 64 + 128 - 0x80)) * 64 +
      (v / 64 % 64 + 128 - 0x80)) * 64 + (v % 64 + 128 - 0x80) = v := by
    omega
  obtain ⟨low, high, hlead, hrange⟩ := lead?_four (b := v / 262144 % 8 + 240) (t := v / 4096 % 64 + 128)
    (by omega) (by omega) (by omega) (by omega) (by omega)
  rw [← hb] at hlead
  rw [← ht] at hrange
  rw [symbolsFrom_lead hlead, symbolsFrom_tail hrange, symbolsFrom_tail (by omega), symbolsFrom_last (by omega),
    hb, ht, hu, hw, hv]

/-- The bytes of a character are read as that character. -/
theorem symbolsFrom_encoded (c : Char) :
    symbolsFrom .between (String.utf8EncodeChar c ++ bs) = .char c :: symbolsFrom .between bs := by
  have hc : Char.ofNat c.val.toNat = c := Char.ofNat_toNat c
  have hvalid : c.val.toNat < 0xd800 ∨ 0xdfff < c.val.toNat ∧ c.val.toNat < 0x110000 := c.valid
  unfold String.utf8EncodeChar
  generalize c.val.toNat = v at hc hvalid
  subst hc
  dsimp only
  split
  · exact symbolsFrom_one bs (by omega)
  · split
    · exact symbolsFrom_two bs (by omega) (by omega)
    · split
      · exact symbolsFrom_three bs (by omega) (by omega) (by omega)
      · exact symbolsFrom_four bs (by omega) (by omega)

end Encoded

theorem shown_encodeChar (c : Char) (bs : List UInt8) :
    shown (String.utf8EncodeChar c ++ bs) = c :: shown bs := by
  rw [shown, symbolsFrom_encoded]
  rfl

theorem toList_loop (bytes : ByteArray) (i : Nat) (read : List UInt8) :
    ByteArray.toList.loop bytes i read = read.reverse ++ bytes.data.toList.drop i := by
  fun_induction ByteArray.toList.loop bytes i read with
  | case1 i read hi ih =>
    have hlength : i < bytes.data.toList.length := by simpa using hi
    have hget : bytes.get! i = bytes.data.toList[i] := by
      simp only [ByteArray.get!, Array.getElem_toList]
      exact getElem!_pos bytes.data i (by simpa using hlength)
    rw [ih, List.drop_eq_getElem_cons hlength, hget]
    simp
  | case2 i read hi =>
    have hlength : bytes.data.toList.length ≤ i := by simpa using hi
    rw [List.drop_eq_nil_of_le hlength, List.append_nil]

theorem toList_toByteArray (bs : List UInt8) : bs.toByteArray.toList = bs := by
  rw [ByteArray.toList, toList_loop, List.toList_data_toByteArray]
  rfl

theorem lossy_toByteArray (bs : List UInt8) : lossy bs.toByteArray = String.ofList (shown bs) := by
  rw [lossy, symbols, toList_toByteArray]
  rfl

/-- The bytes of a text, character by character. -/
def encoded (s : String) : List UInt8 := s.toList.flatMap String.utf8EncodeChar

theorem toByteArray_encoded (s : String) : (encoded s).toByteArray = s.toUTF8 := by
  have hs : (String.ofList s.toList).toByteArray = s.toList.utf8Encode := String.toByteArray_ofList
  rw [String.ofList_toList] at hs
  exact hs.symm

theorem shown_encoded (s : String) : shown (encoded s) = s.toList := by
  rw [encoded]
  induction s.toList with
  | nil => rfl
  | cons c cs ih => rw [List.flatMap_cons, shown_encodeChar, ih]

/-! ## Characters of ASCII -/

/-- A reader that is inside a character has taken so much of it that it can only be one beyond ASCII, and waits
for bytes beyond ASCII. -/
inductive State.Sound : State → Prop
  | between : State.Sound .between
  | inside {bits taken owed low high : Nat} (low_ge : 0x80 ≤ low)
    (beyond : 0x80 ≤ (bits * 64 + (low - 0x80)) * 64 ^ owed) : State.Sound (.inside bits taken owed low high)

/-- A symbol that is beyond ASCII: a hole, or a character with a number beyond that of a byte of ASCII. -/
def Symbol.Beyond : Symbol → Prop
  | .char c => ∃ n, 0x80 ≤ n ∧ c = Char.ofNat n
  | .hole _ => True

/-- A first byte promises a character of ASCII and is that character, or it promises one beyond. -/
theorem lead?_promise {b : Nat} {promise : Lead} (h : lead? b = some promise) :
    (promise.tails = 0 ∧ promise.bits = b ∧ b < 0x80) ∨
      (0 < promise.tails ∧ 0x80 ≤ b ∧
        (State.inside promise.bits 1 (promise.tails - 1) promise.low promise.high).Sound) := by
  unfold lead? at h
  repeat' split at h
  all_goals simp only [Option.some.injEq, reduceCtorEq] at h
  all_goals subst h
  · exact Or.inl ⟨rfl, rfl, by assumption⟩
  all_goals
    refine Or.inr ⟨Nat.succ_pos _, by omega, ?_⟩
    constructor <;> dsimp only <;> omega

/-- A byte of ASCII comes out as its character, behind a hole for what is spoiled. -/
theorem step_ascii {state : State} (hsound : state.Sound) {b : UInt8} (hb : b.toNat < 0x80) :
    step state b.toNat = (.between, symbolsFrom state [] ++ [.char (Char.ofNat b.toNat)]) := by
  cases hsound with
  | between =>
    rw [step, begin, lead?_ascii hb]
    rfl
  | @inside bits taken owed low high hlow =>
    have hlow : ¬(low ≤ b.toNat ∧ b.toNat ≤ high) := by omega
    rw [step, if_neg (by simpa using hlow), begin, lead?_ascii hb]
    rfl

/-- Any other byte comes out beyond ASCII, if anything comes out. -/
theorem step_beyond {state : State} (hsound : state.Sound) {b : Nat} (hb : 0x80 ≤ b) :
    (step state b).1.Sound ∧ ∀ x ∈ (step state b).2, x.Beyond := by
  have hbegin : (begin b).1.Sound ∧ ∀ x ∈ (begin b).2, x.Beyond := by
    unfold begin
    cases hlead : lead? b with
    | none => exact ⟨.between, fun x hx => List.mem_singleton.mp hx ▸ trivial⟩
    | some promise =>
      obtain ⟨bits, tails, low, high⟩ := promise
      rcases lead?_promise hlead with ⟨-, -, hascii⟩ | ⟨htails, -, hinside⟩
      · omega
      · cases tails with
        | zero => exact absurd htails (Nat.lt_irrefl 0)
        | succ owed => exact ⟨hinside, fun x hx => absurd hx List.not_mem_nil⟩
  cases hsound with
  | between => exact hbegin
  | @inside bits taken owed low high hlow hmin =>
    by_cases hrange : low ≤ b ∧ b ≤ high
    · rw [step, if_pos (by simpa using hrange)]
      cases owed with
      | zero =>
        refine ⟨.between, fun x hx => ?_⟩
        cases List.mem_singleton.mp hx
        exact ⟨_, by omega, rfl⟩
      | succ owed =>
        refine ⟨.inside (Nat.le_refl _) ?_, fun x hx => absurd hx List.not_mem_nil⟩
        have hmore : (bits * 64 + (low - 0x80)) * 64 ^ (owed + 1) ≤ (bits * 64 + (b - 0x80)) * 64 ^ (owed + 1) :=
          Nat.mul_le_mul_right _ (by omega)
        rw [Nat.sub_self, Nat.add_zero, Nat.mul_assoc, ← Nat.pow_succ']
        exact Nat.le_trans hmin hmore
    · rw [step, if_neg (by simpa using hrange)]
      refine ⟨hbegin.1, fun x hx => ?_⟩
      rcases List.mem_cons.mp hx with rfl | hx
      · trivial
      · exact hbegin.2 x hx

theorem sound_step {state : State} (hsound : state.Sound) (b : UInt8) : (step state b.toNat).1.Sound := by
  by_cases hb : b.toNat < 0x80
  · rw [step_ascii hsound hb]
    exact .between
  · exact (step_beyond hsound (by omega)).1

theorem symbolsFrom_ascii {state : State} (hsound : state.Sound) (front : List UInt8) {b : UInt8}
    (hb : b.toNat < 0x80) (back : List UInt8) :
    symbolsFrom state (front ++ b :: back) =
      symbolsFrom state front ++ .char (Char.ofNat b.toNat) :: symbolsFrom .between back := by
  induction front generalizing state with
  | nil => rw [List.nil_append, symbolsFrom_cons, step_ascii hsound hb, List.append_assoc, List.singleton_append]
  | cons a front ih =>
    rw [List.cons_append, symbolsFrom_cons, symbolsFrom_cons, ih (sound_step hsound a), List.append_assoc]

/-- A byte of ASCII stands for its character, whatever bytes are around it. -/
theorem shown_ascii (front : List UInt8) {b : UInt8} (hb : b.toNat < 0x80) (back : List UInt8) :
    shown (front ++ b :: back) = shown front ++ Char.ofNat b.toNat :: shown back := by
  rw [shown, symbolsFrom_ascii .between front hb back, List.map_append, List.map_cons]
  rfl

theorem Symbol.Beyond.shown_ne {x : Symbol} (h : x.Beyond) {c : Char} (hpos : 0 < c.toNat) (hc : c.toNat < 0x80) :
    x.shown ≠ c := by
  cases x with
  | hole n =>
    rintro rfl
    exact absurd hc (by simp only [shown]; decide)
  | char d =>
    obtain ⟨n, hn, rfl⟩ := h
    rintro rfl
    simp only [shown] at hpos hc
    by_cases hvalid : n.isValidChar
    · have hnat : (Char.ofNat n).toNat = n := by
        rw [Char.ofNat, dif_pos hvalid]
        rfl
      omega
    · rw [Char.ofNat, dif_neg hvalid] at hpos
      exact absurd hpos (by decide)

theorem mem_of_mem_symbolsFrom {state : State} (hsound : state.Sound) {bs : List UInt8} {c : Char}
    (hpos : 0 < c.toNat) (hc : c.toNat < 0x80) (h : c ∈ (symbolsFrom state bs).map Symbol.shown) :
    ∃ b ∈ bs, Char.ofNat b.toNat = c := by
  induction bs generalizing state with
  | nil =>
    obtain ⟨x, hx, hshown⟩ := List.mem_map.mp h
    cases state with
    | between => cases hx
    | inside bits taken owed low high =>
      cases List.mem_singleton.mp hx
      exact absurd hshown (Symbol.Beyond.shown_ne (x := .hole taken) trivial hpos hc)
  | cons b bs ih =>
    rw [symbolsFrom_cons, List.map_append] at h
    rcases List.mem_append.mp h with h | h
    · obtain ⟨x, hx, hshown⟩ := List.mem_map.mp h
      by_cases hb : b.toNat < 0x80
      · rw [step_ascii hsound hb] at hx
        rcases List.mem_append.mp hx with hx | hx
        · -- the hole for what is spoiled
          cases state with
          | between => cases hx
          | inside bits taken owed low high =>
            cases List.mem_singleton.mp hx
            exact absurd hshown (Symbol.Beyond.shown_ne (x := .hole taken) trivial hpos hc)
        · cases List.mem_singleton.mp hx
          exact ⟨b, List.mem_cons_self, hshown⟩
      · exact absurd hshown (((step_beyond hsound (by omega)).2 x hx).shown_ne hpos hc)
    · obtain ⟨d, hd, hshown⟩ := ih (sound_step hsound b) h
      exact ⟨d, List.mem_cons_of_mem _ hd, hshown⟩

/-- No other bytes are shown as a character of ASCII. -/
theorem mem_of_mem_shown {bs : List UInt8} {c : Char} (hpos : 0 < c.toNat) (hc : c.toNat < 0x80) (h : c ∈ shown bs) :
    ∃ b ∈ bs, Char.ofNat b.toNat = c :=
  mem_of_mem_symbolsFrom .between hpos hc h

theorem shown_ne_nil {bs : List UInt8} (h : bs ≠ []) : shown bs ≠ [] := by
  have hinside : ∀ bs bits taken owed low high, symbolsFrom (.inside bits taken owed low high) bs ≠ [] := by
    intro bs
    induction bs with
    | nil => nofun
    | cons b bs ih =>
      intro bits taken owed low high
      rw [symbolsFrom_cons, step]
      split
      · cases owed with
        | zero => exact List.cons_ne_nil _ _
        | succ owed => exact ih _ _ _ _ _
      · exact List.cons_ne_nil _ _
  cases bs with
  | nil => exact absurd rfl h
  | cons b bs =>
    rw [shown, ne_eq, List.map_eq_nil_iff, symbolsFrom_cons, step, begin]
    split
    · exact List.cons_ne_nil _ _
    · exact List.cons_ne_nil _ _
    · exact hinside _ _ _ _ _ _

end Mend.Text.Utf8
