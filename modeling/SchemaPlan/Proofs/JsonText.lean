import Mathlib.Tactic.Tauto
import SchemaPlan.Json.Parser
import SchemaPlan.Json.Printer
import SchemaPlan.Proofs.Reading

/-!
# JSON text reads back

What `render` writes, `parse` reads as the value that was written, as long as the value is *plain*:
its strings name characters, its numbers are integers, and its containers are not too deep in one
another.

The proof follows the two halves of the reader.  The text of a value is cut into the tokens of the
value (`scan_renderChars`), whatever follows, provided that it begins with a mark; and the tokens are
put together to the value (`assemble?_tokens`), whatever containers are open around it.
-/

namespace SchemaPlan.Json

/-! ### Strings -/

theorem hexDigit?_hexChar {n : Nat} (h : n < 16) : hexDigit? (hexChar n) = some n := by
  revert n
  decide

/-- An escape for a control character spells the character. -/
theorem hexUnit?_hexChar {n : Nat} (h : n < 32) :
    hexUnit? '0' '0' (hexChar (n / 16)) (hexChar (n % 16)) = some n := by
  have hzero : hexDigit? '0' = some 0 := rfl
  rw [hexUnit?, hexDigit?_hexChar (by omega), hexDigit?_hexChar (by omega), hzero]
  simp only [Option.bind_eq_bind, Option.bind_some, Option.pure_def, Option.some.injEq]
  omega

/-- The three ways in which a character is written. -/
theorem escapeChar_cases (c : Char) :
    (∃ e, e ≠ 'u' ∧ escaped? e = some c ∧ escapeChar c = ['\\', e]) ∨
      (c.toNat < 32 ∧
        escapeChar c = ['\\', 'u', '0', '0', hexChar (c.toNat / 16), hexChar (c.toNat % 16)]) ∨
      (c ≠ '\x22' ∧ c ≠ '\\' ∧ 32 ≤ c.toNat ∧ escapeChar c = [c]) := by
  by_cases hquote : c = '\x22'
  · exact .inl ⟨'\x22', by decide, by rw [hquote]; rfl, by rw [hquote]; rfl⟩
  by_cases hslash : c = '\\'
  · exact .inl ⟨'\\', by decide, by rw [hslash]; rfl, by rw [hslash]; rfl⟩
  unfold escapeChar
  rw [if_neg (by simpa using hquote), if_neg (by simpa using hslash)]
  by_cases hcontrol : c.toNat < 32
  · rw [if_pos hcontrol]
    split
    · exact .inl ⟨'b', by decide, rfl, rfl⟩
    · exact .inl ⟨'f', by decide, rfl, rfl⟩
    · exact .inl ⟨'n', by decide, rfl, rfl⟩
    · exact .inl ⟨'r', by decide, rfl, rfl⟩
    · exact .inl ⟨'t', by decide, rfl, rfl⟩
    · exact .inr (.inl ⟨hcontrol, rfl⟩)
  · rw [if_neg hcontrol]
    exact .inr (.inr ⟨hquote, hslash, Nat.le_of_not_lt hcontrol, rfl⟩)

/-- The text of a character spells the character. -/
theorem readUnits_escapeChar {c : Char} {cs rest : List Char} {units : List Nat}
    (h : readUnits cs = some (units, rest)) :
    readUnits (escapeChar c ++ cs) = some (c.toNat :: units, rest) := by
  obtain ⟨e, hu, he, hescape⟩ | ⟨hcontrol, hescape⟩ | ⟨hquote, hslash, hprintable, hescape⟩ :=
    escapeChar_cases c
  · rw [hescape, List.cons_append, List.singleton_append,
      readUnits.eq_4 e cs (fun _ _ _ _ _ heu _ => hu heu), he, h]
    rfl
  · rw [hescape]
    simp only [List.cons_append, List.nil_append]
    rw [readUnits.eq_3, hexUnit?_hexChar hcontrol, h]
    rfl
  · have hkept : ¬(decide (c.toNat < 32) || c == '\\') = true := by
      simp only [Bool.or_eq_true, decide_eq_true_eq, beq_iff_eq, not_or]
      exact ⟨Nat.not_lt.2 hprintable, hslash⟩
    rw [hescape, List.singleton_append, readUnits.eq_5 c cs hquote
      (fun _ _ _ _ _ hc _ => hslash hc) (fun _ _ hc _ => hslash hc), if_neg hkept, h]
    rfl

theorem readUnits_escaped (cs rest : List Char) :
    readUnits (cs.flatMap escapeChar ++ '\x22' :: rest) = some (cs.map Char.toNat, rest) := by
  induction cs with
  | nil => rfl
  | cons c cs ih =>
    rw [List.flatMap_cons, List.append_assoc]
    exact readUnits_escapeChar ih

/-- A character is not half a pair. -/
theorem not_isSurrogate (c : Char) :
    isHighSurrogate c.toNat = false ∧ isLowSurrogate c.toNat = false := by
  have hvalid : c.toNat < 0xD800 ∨ 0xDFFF < c.toNat ∧ c.toNat < 0x110000 := c.valid
  simp only [isHighSurrogate, isLowSurrogate, Bool.and_eq_false_iff, decide_eq_false_iff_not]
  omega

/-- Code units that name one character each. -/
theorem joinUnits_map_toNat (cs : List Char) : joinUnits (cs.map Char.toNat) = some cs := by
  induction cs with
  | nil => rfl
  | cons c cs ih =>
    obtain ⟨hhigh, hlow⟩ := not_isSurrogate c
    cases cs with
    | nil => simp [joinUnits, hhigh, hlow]
    | cons d cs =>
      rw [List.map_cons, List.map_cons, joinUnits, ← List.map_cons, ih]
      simp [hhigh, hlow]

/-! ### Tokens -/

mutual

/-- The tokens of a value. -/
def tokens : Json → List Token
  | .arr items => .openArray :: (itemTokens items ++ [.closeArray])
  | .obj fields => .openObject :: (fieldTokens fields ++ [.closeObject])
  | j => [.scalar j]

/-- The tokens of items with commas between them. -/
def itemTokens : List Json → List Token
  | [] => []
  | [j] => tokens j
  | j :: js => tokens j ++ .comma :: itemTokens js

/-- The tokens of fields with commas between them. -/
def fieldTokens : List (Option String × Json) → List Token
  | [] => []
  | [(name, j)] => .scalar (.str name) :: .colon :: tokens j
  | (name, j) :: fields =>
    .scalar (.str name) :: .colon :: (tokens j ++ .comma :: fieldTokens fields)

end

/-- A value in which nothing is lost that is to be written, with at most so many containers in one
another. -/
def Plain : Nat → Json → Prop
  | _, .null | _, .bool _ => True
  | _, .int n => n.natAbs < 1 <<< 64
  | _, .real _ => False
  | _, .str s => s.isSome
  | 0, .arr _ | 0, .obj _ => False
  | depth + 1, .arr items => ∀ j ∈ items, Plain depth j
  | depth + 1, .obj fields => ∀ f ∈ fields, f.1.isSome ∧ Plain depth f.2

theorem areSound_iff {items : List Json} : areSound items = true ↔ ∀ j ∈ items, isSound j = true := by
  induction items with
  | nil => simp [areSound]
  | cons j js ih => simp [areSound, ih]

theorem areFieldsSound_iff {fields : List (Option String × Json)} :
    areFieldsSound fields = true ↔ ∀ f ∈ fields, f.1.isSome ∧ isSound f.2 = true := by
  induction fields with
  | nil => simp [areFieldsSound]
  | cons f fields ih =>
    obtain ⟨name, j⟩ := f
    simp [areFieldsSound, ih]

/-- A plain value is sound. -/
theorem Plain.isSound : ∀ {depth : Nat} {j : Json}, Plain depth j → j.isSound = true := by
  intro depth
  induction depth with
  | zero => intro j h; cases j <;> simp_all [Plain, Json.isSound]
  | succ depth ih =>
    intro j h
    cases j with
    | arr items => exact areSound_iff.2 fun j hj => ih (h j hj)
    | obj fields => exact areFieldsSound_iff.2 fun f hf => ⟨(h f hf).1, ih (h f hf).2⟩
    | _ => simp_all [Plain, Json.isSound]

/-! ### Numbers -/

theorem decimalValue_toDigits (n : Nat) : decimalValue (Nat.toDigits 10 n) = n := by
  have hvalue := Nat.ofDigitChars_ten_toDigits (n := n)
  rw [Nat.ofDigitChars_eq_foldl] at hvalue
  exact hvalue

/-- The digits of a number other than zero do not begin with a zero. -/
theorem head?_toDigits {n : Nat} (h : 0 < n) : (Nat.toDigits 10 n).head? ≠ some '0' := by
  induction n using Nat.strongRecOn with
  | ind n ih =>
    by_cases hlt : n < 10
    · have hdigit : ∀ d < 10, 0 < d → d.digitChar ≠ '0' := by decide
      rw [Nat.toDigits_of_lt_base hlt, List.head?_cons]
      exact fun he => hdigit n hlt h (Option.some.inj he)
    · have hle : 10 ≤ n := Nat.le_of_not_lt hlt
      obtain ⟨d, ds, hds⟩ := List.exists_cons_of_ne_nil (Nat.toDigits_ne_nil (n := n / 10) (b := 10))
      have hfront := ih (n / 10) (by omega) (by omega)
      rw [hds] at hfront
      rw [Nat.toDigits_of_base_le (by decide) hle, hds]
      exact hfront

theorem readUnsigned?_toDigits (negative : Bool) (n : Nat) (h : negative = true → 0 < n) :
    readUnsigned? negative (Nat.toDigits 10 n) = some (.int (if negative then -n else n)) := by
  have hdigits : ∀ c ∈ Nat.toDigits 10 n, c.isDigit = true := fun c hc =>
    Nat.isDigit_of_mem_toDigits (by decide) (by decide) hc
  have htake : (Nat.toDigits 10 n).takeWhile Char.isDigit = Nat.toDigits 10 n :=
    List.takeWhile_eq_self_iff.2 hdigits
  have hdrop : (Nat.toDigits 10 n).dropWhile Char.isDigit = [] :=
    List.dropWhile_eq_nil_iff.2 hdigits
  have hform : ((Nat.toDigits 10 n).isEmpty ||
      (Nat.toDigits 10 n).head? == some '0' && decide ((Nat.toDigits 10 n).length > 1)) = false := by
    rw [Bool.or_eq_false_iff, List.isEmpty_eq_false_iff]
    refine ⟨Nat.toDigits_ne_nil, ?_⟩
    rcases Nat.eq_zero_or_pos n with rfl | hpos
    · rfl
    · rw [beq_eq_false_iff_ne.2 (head?_toDigits hpos), Bool.false_and]
  unfold readUnsigned?
  rw [htake, hdrop]
  dsimp only
  rw [hform]
  cases negative with
  | false => simp [decimalValue_toDigits]
  | true => simp [decimalValue_toDigits, Nat.pos_iff_ne_zero.1 (h rfl)]

/-- The characters of an integer. -/
theorem toList_toString (n : Int) : (toString n).toList =
    if n < 0 then '-' :: Nat.toDigits 10 n.natAbs else Nat.toDigits 10 n.natAbs := by
  rw [Int.toString_eq_repr, Int.repr_eq_if]
  by_cases h : n < 0
  · rw [if_neg (by omega), if_pos h, Nat.repr_eq_ofList_toDigits, show (-n).toNat = n.natAbs by omega]
    simp
  · rw [if_pos (by omega), if_neg h, Nat.repr_eq_ofList_toDigits, show n.toNat = n.natAbs by omega]
    simp

theorem readNumber?_toString (n : Int) : readNumber? (toString n).toList = some (.int n) := by
  rw [toList_toString]
  split
  next h =>
    rw [readNumber?, readUnsigned?_toDigits true _ fun _ => by omega]
    simp only [if_true, Option.some.injEq, Json.int.injEq]
    omega
  next h =>
    have hminus : ∀ cs, Nat.toDigits 10 n.natAbs ≠ '-' :: cs := by
      intro cs he
      have hdigit : ('-').isDigit = true :=
        Nat.isDigit_of_mem_toDigits (b := 10) (n := n.natAbs) (by decide) (by decide) (by rw [he]; simp)
      exact absurd hdigit (by decide)
    rw [readNumber?.eq_2 _ fun cs he => hminus cs he, readUnsigned?_toDigits false _ (by simp)]
    simp only [Bool.false_eq_true, if_false, Option.some.injEq, Json.int.injEq]
    omega

theorem isNumberChar_toString {n : Int} {c : Char} (h : c ∈ (toString n).toList) :
    isNumberChar c = true := by
  have hdigits : ∀ c ∈ Nat.toDigits 10 n.natAbs, isNumberChar c = true := by
    intro c hc
    simp [isNumberChar, Nat.isDigit_of_mem_toDigits (by decide) (by decide) hc]
  rw [toList_toString] at h
  split at h
  · rcases List.mem_cons.1 h with rfl | h
    · rfl
    · exact hdigits c h
  · exact hdigits c h

/-! ### Cutting text into tokens -/

/-- A text that is at its end or goes on with a mark. -/
def Ends (rest : List Char) : Prop :=
  ∀ c cs, rest = c :: cs → (mark? c).isSome

theorem ends_nil : Ends [] := by
  rintro c cs ⟨⟩

theorem ends_cons {c : Char} {cs : List Char} (h : (mark? c).isSome) : Ends (c :: cs) := by
  rintro _ _ ⟨⟩
  exact h

theorem scan_cons {c : Char} {cs rest : List Char} {t : Token} {ts : List Token}
    (hgap : isGap c = false) (h : readToken? c cs = some (t, rest)) (hrest : scan rest = .ok ts) :
    scan (c :: cs) = .ok (t :: ts) := by
  rw [scan, if_neg (by simp [hgap])]
  split
  next hnone =>
    rw [h] at hnone
    cases hnone
  next t' rest' hsome =>
    rw [h] at hsome
    obtain ⟨rfl, rfl⟩ := Prod.mk.inj (Option.some.inj hsome)
    rw [hrest]
    rfl

/-- What is false of the six marks. -/
theorem eq_false_of_isSome_mark? {p : Char → Bool} {c : Char}
    (hp : ['[', ']', '{', '}', ',', ':'].all (!p ·) = true) (h : (mark? c).isSome) :
    p c = false := by
  have hmem : c ∈ ['[', ']', '{', '}', ',', ':'] := by
    unfold mark? at h
    split at h
    all_goals first | decide | cases h
  simpa using List.all_eq_true.1 hp c hmem

theorem scan_mark {c : Char} {cs : List Char} {t : Token} {ts : List Token} (h : mark? c = some t)
    (hcs : scan cs = .ok ts) : scan (c :: cs) = .ok (t :: ts) := by
  have hgap : isGap c = false := eq_false_of_isSome_mark? (by decide) (by rw [h]; rfl)
  refine scan_cons hgap ?_ hcs
  rw [readToken?, h]

theorem scan_renderString {s : String} {rest : List Char} {ts : List Token}
    (h : scan rest = .ok ts) : scan (renderString s ++ rest) = .ok (.scalar (text s) :: ts) := by
  have hmark : mark? '\x22' = none := rfl
  rw [renderString, List.cons_append]
  refine scan_cons (by decide) ?_ h
  rw [List.append_assoc, List.singleton_append, readToken?, hmark]
  simp [readUnits_escaped, joinUnits_map_toNat]

/-- A run of characters ends where a mark stands. -/
theorem Ends.stop {p : Char → Bool} {rest : List Char} (hrest : Ends rest)
    (hp : ∀ c, (mark? c).isSome → p c = false) : ∀ c ∈ rest.head?, p c = false := by
  intro c hc
  obtain ⟨cs, rfl⟩ := List.head?_eq_some_iff.1 hc
  exact hp c (hrest c cs rfl)

/-- A character of a number begins nothing else. -/
theorem of_isNumberChar {c : Char} (h : isNumberChar c = true) :
    isGap c = false ∧ mark? c = none ∧ c ≠ '\x22' := by
  refine ⟨?_, ?_, ?_⟩
  · rw [Bool.eq_false_iff]
    intro hgap
    simp only [isGap, Bool.or_eq_true, beq_iff_eq] at hgap
    rcases hgap with ((rfl | rfl) | rfl) | rfl <;> exact absurd h (by decide)
  · rw [← Option.not_isSome_iff_eq_none]
    intro hmark
    have hnot : isNumberChar c = false := eq_false_of_isSome_mark? (by decide) hmark
    rw [hnot] at h
    cases h
  · rintro rfl
    exact absurd h (by decide)

theorem scan_toString {n : Int} {rest : List Char} {ts : List Token} (hrest : Ends rest)
    (h : scan rest = .ok ts) : scan ((toString n).toList ++ rest) = .ok (.scalar (.int n) :: ts) := by
  have hmarks : ∀ c, (mark? c).isSome → isNumberChar c = false := fun _ =>
    eq_false_of_isSome_mark? (by decide)
  have hchars : ∀ c ∈ (toString n).toList, isNumberChar c = true := fun c hc =>
    isNumberChar_toString hc
  have hread := readNumber?_toString n
  cases hcs : (toString n).toList with
  | nil =>
    rw [hcs] at hread
    cases hread
  | cons c cs =>
    rw [hcs] at hchars hread
    obtain ⟨hgap, hmark, hquote⟩ := of_isNumberChar (hchars c List.mem_cons_self)
    have htail : ∀ c ∈ cs, isNumberChar c = true := fun c hc => hchars c (List.mem_cons_of_mem _ hc)
    rw [List.cons_append]
    refine scan_cons hgap ?_ h
    rw [readToken?, hmark]
    have hstop := hrest.stop hmarks
    simp [hquote, hchars c List.mem_cons_self, Text.takeWhile_append_of_stop htail hstop,
      Text.dropWhile_append_of_stop htail hstop, hread]

theorem scan_word {c : Char} {cs rest : List Char} {j : Json} {ts : List Token}
    (hc : c ∈ ['n', 't', 'f']) (hcs : cs.all Char.isAlpha = true)
    (hread : readWord? (c :: cs) = some j) (hrest : Ends rest) (h : scan rest = .ok ts) :
    scan (c :: cs ++ rest) = .ok (.scalar j :: ts) := by
  have hmarks : ∀ c, (mark? c).isSome → c.isAlpha = false := fun _ =>
    eq_false_of_isSome_mark? (by decide)
  have hbegins : ∀ c ∈ ['n', 't', 'f'], isGap c = false ∧ mark? c = none ∧ (c == '\x22') = false ∧
      isNumberChar c = false ∧ c.isAlpha = true := by
    simp only [List.forall_mem_cons]
    exact ⟨⟨rfl, rfl, rfl, rfl, rfl⟩, ⟨rfl, rfl, rfl, rfl, rfl⟩, ⟨rfl, rfl, rfl, rfl, rfl⟩, by simp⟩
  obtain ⟨hgap, hmark, hquote, hnumber, halpha⟩ := hbegins c hc
  rw [List.cons_append]
  refine scan_cons hgap ?_ h
  rw [readToken?, hmark]
  have hword := List.all_eq_true.1 hcs
  have hstop := hrest.stop hmarks
  simp [hquote, hnumber, halpha, Text.takeWhile_append_of_stop hword hstop,
    Text.dropWhile_append_of_stop hword hstop, hread]

/-- What is said of the text of a value: it is cut into the tokens of the value. -/
def Cuts (j : Json) : Prop :=
  ∀ {rest : List Char} {ts : List Token}, Ends rest → scan rest = .ok ts →
    scan (renderChars j ++ rest) = .ok (tokens j ++ ts)

theorem scan_renderItems {items : List Json} (hitems : ∀ j ∈ items, Cuts j) {rest : List Char}
    {ts : List Token} (hrest : Ends rest) (h : scan rest = .ok ts) :
    scan (renderItems items ++ rest) = .ok (itemTokens items ++ ts) := by
  induction items with
  | nil => exact h
  | cons j js ih =>
    obtain ⟨hj, hjs⟩ := List.forall_mem_cons.1 hitems
    cases js with
    | nil => exact hj hrest h
    | cons k js =>
      have hcomma : scan (',' :: (renderItems (k :: js) ++ rest)) =
          .ok (.comma :: (itemTokens (k :: js) ++ ts)) :=
        scan_mark rfl (ih hjs)
      have hall := hj (ends_cons rfl) hcomma
      rw [renderItems, itemTokens, List.append_assoc, List.append_assoc]
      · exact hall
      all_goals simp

theorem scan_renderFields {fields : List (Option String × Json)}
    (hfields : ∀ f ∈ fields, f.1.isSome ∧ Cuts f.2) {rest : List Char} {ts : List Token}
    (hrest : Ends rest) (h : scan rest = .ok ts) :
    scan (renderFields fields ++ rest) = .ok (fieldTokens fields ++ ts) := by
  induction fields with
  | nil => exact h
  | cons f fields ih =>
    obtain ⟨name, j⟩ := f
    obtain ⟨⟨hname, hj⟩, hmore⟩ := List.forall_mem_cons.1 hfields
    obtain ⟨name, rfl⟩ := Option.isSome_iff_exists.1 hname
    cases fields with
    | nil =>
      have hcolon : scan (':' :: (renderChars j ++ rest)) = .ok (.colon :: (tokens j ++ ts)) :=
        scan_mark rfl (hj hrest h)
      have hall := scan_renderString (s := name) hcolon
      rw [renderFields, fieldTokens, List.append_assoc]
      exact hall
    | cons f fields =>
      have hcomma : scan (',' :: (renderFields (f :: fields) ++ rest)) =
          .ok (.comma :: (fieldTokens (f :: fields) ++ ts)) :=
        scan_mark rfl (ih hmore)
      have hcolon := scan_mark (c := ':') rfl (hj (ends_cons rfl) hcomma)
      have hall := scan_renderString (s := name) hcolon
      rw [renderFields, fieldTokens, List.append_assoc]
      · simpa using hall
      all_goals simp

/-- **The text of a value is cut into its tokens.** -/
theorem scan_renderChars {depth : Nat} : ∀ {j : Json}, Plain depth j → Cuts j := by
  induction depth using Nat.strongRecOn with
  | ind depth ih =>
    intro j hj rest ts hrest h
    cases j with
    | null => exact scan_word (by decide) rfl rfl hrest h
    | bool b =>
      cases b with
      | false => exact scan_word (by decide) rfl rfl hrest h
      | true => exact scan_word (by decide) rfl rfl hrest h
    | int n => exact scan_toString hrest h
    | real finite => cases depth <;> exact hj.elim
    | str s =>
      have hs : s.isSome := by cases depth <;> exact hj
      obtain ⟨s, rfl⟩ := Option.isSome_iff_exists.1 hs
      exact scan_renderString h
    | arr items =>
      cases depth with
      | zero => exact hj.elim
      | succ depth =>
        have hclose : scan (']' :: rest) = .ok (.closeArray :: ts) := scan_mark rfl h
        have hitems := scan_renderItems (fun j hm => ih depth (Nat.lt_succ_self _) (hj j hm))
          (ends_cons rfl) hclose
        have hall := scan_mark (c := '[') rfl hitems
        simpa [renderChars, tokens] using hall
    | obj fields =>
      cases depth with
      | zero => exact hj.elim
      | succ depth =>
        have hclose : scan ('}' :: rest) = .ok (.closeObject :: ts) := scan_mark rfl h
        have hfields := scan_renderFields
          (fun f hm => ⟨(hj f hm).1, ih depth (Nat.lt_succ_self _) (hj f hm).2⟩)
          (ends_cons rfl) hclose
        have hall := scan_mark (c := '{') rfl hfields
        simpa [renderChars, tokens] using hall

/-! ### Putting tokens together -/

theorem assemble?_cons {e e' : Expect} {stack stack' : List Frame} {t : Token} {ts : List Token}
    (hstep : step e stack t = some (e', stack')) (hcount : openCount e' stack' ≤ maxDepth) :
    assemble? e stack (t :: ts) = assemble? e' stack' ts := by
  rw [assemble?.eq_def]
  split
  · contradiction
  · contradiction
  next t' ts' _ he =>
    obtain ⟨rfl, rfl⟩ := List.cons.inj he
    rw [hstep]
    exact if_pos hcount

/-- What is said of the tokens of a value: they are put together to the value. -/
def Assembles (depth : Nat) (j : Json) : Prop :=
  ∀ (stack : List Frame) (ts : List Token), stack.length + depth ≤ maxDepth →
    assemble? .value stack (tokens j ++ ts) = assemble? (.after j) stack ts

/-- The first item of an array is read as any other. -/
theorem assemble?_firstItem (j : Json) (stack : List Frame) (ts : List Token) :
    assemble? .firstItem stack (tokens j ++ ts) =
      assemble? .value (.arr [] :: stack) (tokens j ++ ts) := by
  cases j <;> rfl

/-- The first name of an object is read as any other. -/
theorem assemble?_firstName (name : Option String) (stack : List Frame) (ts : List Token) :
    assemble? .firstName stack (.scalar (.str name) :: ts) =
      assemble? (.name []) stack (.scalar (.str name) :: ts) :=
  rfl

section Containers

variable {depth : Nat} {stack : List Frame} {ts : List Token}

theorem assemble?_itemTokens (hdepth : stack.length + (depth + 1) ≤ maxDepth) (js : List Json) :
    ∀ (j : Json) (done : List Json), (∀ k ∈ j :: js, Assembles depth k) →
      assemble? .value (.arr done :: stack) (itemTokens (j :: js) ++ .closeArray :: ts) =
        assemble? (.after (.arr (done.reverse ++ j :: js))) stack ts := by
  have hinside : ∀ done, (Frame.arr done :: stack).length + depth ≤ maxDepth := by
    intro done
    rw [List.length_cons]
    omega
  induction js with
  | nil =>
    intro j done h
    rw [itemTokens, h j List.mem_cons_self _ _ (hinside done)]
    have hstep : step (.after j) (.arr done :: stack) .closeArray =
        some (.after (.arr (done.reverse ++ [j])), stack) := by
      rw [step, List.reverse_cons]
    exact assemble?_cons hstep (by simp only [openCount]; omega)
  | cons k js ih =>
    intro j done h
    have htokens : itemTokens (j :: k :: js) = tokens j ++ .comma :: itemTokens (k :: js) := by
      rw [itemTokens]
      simp
    rw [htokens, List.append_assoc, h j List.mem_cons_self _ _ (hinside done), List.cons_append]
    have hstep : step (.after j) (.arr done :: stack) .comma =
        some (.value, .arr (j :: done) :: stack) := rfl
    rw [assemble?_cons hstep (by simp only [openCount, List.length_cons]; omega),
      ih k (j :: done) fun x hx => h x (List.mem_cons_of_mem _ hx)]
    simp

theorem assemble?_fieldTokens (hdepth : stack.length + (depth + 1) ≤ maxDepth)
    (fields : List (Option String × Json)) :
    ∀ (f : Option String × Json) (done : List (Option String × Json)),
      (∀ g ∈ f :: fields, Assembles depth g.2) →
      assemble? (.name done) stack (fieldTokens (f :: fields) ++ .closeObject :: ts) =
        assemble? (.after (.obj (done.reverse ++ f :: fields))) stack ts := by
  have hopen : ∀ (name : Option String) (j : Json) (done : List (Option String × Json))
      (ts : List Token), Assembles depth j →
      assemble? (.name done) stack (.scalar (.str name) :: .colon :: (tokens j ++ ts)) =
        assemble? (.after j) (.obj done name :: stack) ts := by
    intro name j done ts hj
    have hname : step (.name done) stack (.scalar (.str name)) = some (.colon done name, stack) := rfl
    have hcolon : step (.colon done name) stack .colon = some (.value, .obj done name :: stack) := rfl
    rw [assemble?_cons hname (by simp only [openCount]; omega),
      assemble?_cons hcolon (by simp only [openCount, List.length_cons]; omega)]
    exact hj _ _ (by rw [List.length_cons]; omega)
  induction fields with
  | nil =>
    rintro ⟨name, j⟩ done h
    rw [fieldTokens, List.cons_append, List.cons_append, hopen name j done _ (h _ List.mem_cons_self)]
    have hstep : step (.after j) (.obj done name :: stack) .closeObject =
        some (.after (.obj (done.reverse ++ [(name, j)])), stack) := by
      rw [step, List.reverse_cons]
    exact assemble?_cons hstep (by simp only [openCount]; omega)
  | cons g fields ih =>
    rintro ⟨name, j⟩ done h
    have htokens : fieldTokens ((name, j) :: g :: fields) =
        .scalar (.str name) :: .colon :: (tokens j ++ .comma :: fieldTokens (g :: fields)) := by
      rw [fieldTokens]
      simp
    rw [htokens, List.cons_append, List.cons_append, List.append_assoc,
      hopen name j done _ (h _ List.mem_cons_self), List.cons_append]
    have hstep : step (.after j) (.obj done name :: stack) .comma =
        some (.name ((name, j) :: done), stack) := rfl
    rw [assemble?_cons hstep (by simp only [openCount]; omega),
      ih g ((name, j) :: done) fun x hx => h x (List.mem_cons_of_mem _ hx)]
    simp

end Containers

/-- **The tokens of a value are put together to the value.** -/
theorem assemble?_tokens {depth : Nat} : ∀ {j : Json}, Plain depth j → Assembles depth j := by
  induction depth using Nat.strongRecOn with
  | ind depth ih =>
    intro j hj stack ts hdepth
    have hstack : stack.length ≤ maxDepth := by omega
    cases j with
    | arr items =>
      cases depth with
      | zero => exact hj.elim
      | succ depth =>
        have hopen : step .value stack .openArray = some (.firstItem, stack) := rfl
        rw [tokens, List.cons_append, List.append_assoc,
          assemble?_cons hopen (by simp only [openCount]; omega), List.singleton_append]
        cases items with
        | nil => exact assemble?_cons rfl hstack
        | cons j js =>
          have hitems : ∀ k ∈ j :: js, Assembles depth k := fun k hk =>
            ih depth (Nat.lt_succ_self _) (hj k hk)
          refine Eq.trans ?_ (assemble?_itemTokens hdepth js j [] hitems)
          cases js with
          | nil => exact assemble?_firstItem j stack _
          | cons k js =>
            rw [itemTokens, List.append_assoc]
            · exact assemble?_firstItem j stack _
            all_goals simp
    | obj fields =>
      cases depth with
      | zero => exact hj.elim
      | succ depth =>
        have hopen : step .value stack .openObject = some (.firstName, stack) := rfl
        rw [tokens, List.cons_append, List.append_assoc,
          assemble?_cons hopen (by simp only [openCount]; omega), List.singleton_append]
        cases fields with
        | nil => exact assemble?_cons rfl hstack
        | cons f fields =>
          have hfields : ∀ g ∈ f :: fields, Assembles depth g.2 := fun g hg =>
            ih depth (Nat.lt_succ_self _) (hj g hg).2
          refine Eq.trans ?_ (assemble?_fieldTokens hdepth fields f [] hfields)
          obtain ⟨name, j⟩ := f
          cases fields <;> exact assemble?_firstName name stack _
    | _ => exact assemble?_cons rfl hstack

/-- **A plain value is read back from its text.** -/
theorem parse_render {depth : Nat} {j : Json} (h : Plain depth j) (hdepth : depth ≤ maxDepth) :
    parse j.render = .ok j := by
  have hend : scan [] = .ok [] := by rw [scan]
  have hscan := scan_renderChars h ends_nil hend
  have hassemble := assemble?_tokens h [] [] (by simpa using hdepth)
  rw [List.append_nil] at hscan
  rw [parse, render, String.toList_ofList, hscan]
  dsimp only
  rw [hassemble]
  rfl

end SchemaPlan.Json
