import SchemaPlan.Proofs.NormalForms
import SchemaPlan.Sql.TypeName

/-!
# Normal forms of type names

A type name in normal form is in lower case, has its usual long spelling before the modifiers, and
has no blank in the modifiers.  `Sql.TypeName.normalize_eq_self_iff` says that these are the names
that normalizing leaves as they are, and `Sql.normal_forms_settled` that all three ways of
normalizing lead to what they leave as it is.

Most of the work is about lower case.  That a text in lower case has nothing to be lowered is a
property of the tables: no letter that one run leads to is held by another.  Runs of many letters are
compared by their ends (`CaseRun.misses`), and only where the letters of two runs take turns the
parity of the codes tells them apart.  The same comparison shows that no letter becomes a blank.
-/

namespace SchemaPlan

namespace Text

open SchemaPlan.Sql

/-! ### Runs of letters -/

/-- No letter that the first run leads to is held by the second.  Either the letters lie apart, or the
second run holds every other letter only and the first one leads to those in between. -/
def CaseRun.misses (r s : CaseRun) : Bool :=
  r.target + (r.last - r.first) < s.first || s.last < r.target ||
    (s.step == 2 && (r.step == 2 || r.first == r.last) && (r.target + s.first) % 2 == 1)

theorem CaseRun.target?_eq_none_of_misses {r s : CaseRun} (h : r.misses s = true) {m n : Nat}
    (hn : r.target? m = some n) : s.target? n = none := by
  simp only [target?, Option.ite_none_right_eq_some, Option.some.injEq, Bool.and_eq_true,
    decide_eq_true_eq, beq_iff_eq] at hn
  obtain ⟨⟨⟨hfirst, hlast⟩, hstep⟩, rfl⟩ := hn
  simp only [misses, Bool.or_eq_true, Bool.and_eq_true, decide_eq_true_eq, beq_iff_eq] at h
  refine if_neg fun hheld => ?_
  simp only [Bool.and_eq_true, decide_eq_true_eq, beq_iff_eq] at hheld
  obtain ⟨⟨hfirst', hlast'⟩, hstep'⟩ := hheld
  rcases h with (happart | happart) | ⟨⟨htwo, hturns⟩, hodd⟩
  · omega
  · omega
  · rw [htwo] at hstep'
    rcases hturns with hturns | hturns
    · rw [hturns] at hstep
      omega
    · omega

/-- The run that holds one letter only and leaves it as it is. -/
def CaseRun.single (n : Nat) : CaseRun :=
  ⟨n, n, 2, n⟩

theorem CaseRun.ne_of_misses {r : CaseRun} {m n k : Nat} (h : r.misses (single k) = true)
    (hn : r.target? m = some n) : n ≠ k := by
  rintro rfl
  have hnone := target?_eq_none_of_misses h hn
  simp [target?, single] at hnone

theorem misses_lowercaseRuns {r s : CaseRun} (hr : r ∈ lowercaseRuns) (hs : s ∈ lowercaseRuns) :
    r.misses s = true := by
  have hall : (lowercaseRuns.all fun r => lowercaseRuns.all fun s => r.misses s) = true := by
    decide +kernel
  exact List.all_eq_true.1 (List.all_eq_true.1 hall r hr) s hs

theorem misses_single : ∀ r ∈ lowercaseRuns, ∀ k ∈ 0x130 :: blankCodes,
    r.misses (.single k) = true := by
  decide +kernel

/-- What holds of the characters with a code and of the one for codes that belong to no character holds
of whatever a code stands for. -/
theorem ofNat_induction {motive : Char → Prop} (zero : motive (Char.ofNat 0)) {n : Nat}
    (coded : ∀ c : Char, c.toNat = n → motive c) : motive (Char.ofNat n) := by
  by_cases hn : n.isValidChar
  · have he : Char.ofNat n = Char.ofNatAux n hn := dif_pos hn
    rw [he]
    exact coded _ rfl
  · have he : Char.ofNat n = Char.ofNat 0 := dif_neg hn
    rwa [he]

/-- What holds of the first characters and of each character behind them holds of all. -/
theorem ascii_induction {motive : Char → Prop} (small : ∀ n < 0x80, motive (Char.ofNat n))
    (other : ∀ c : Char, ¬c.toNat < 0x80 → motive c) (c : Char) : motive c := by
  by_cases hc : c.toNat < 0x80
  · have h := small c.toNat hc
    rwa [Char.ofNat_toNat] at h
  · exact other c hc

/-- What is found by looking at the characters of a text holds of all of them. -/
theorem forall_mem_of_all {p : Char → Prop} [DecidablePred p] {cs : List Char}
    (h : cs.all (fun c => decide (p c)) = true) : ∀ c ∈ cs, p c :=
  fun c hc => of_decide_eq_true (List.all_eq_true.1 h c hc)

/-! ### Lower case -/

/-- A character that is left as it is, wherever it stands, when a text is written in lower case. -/
def IsLowercase (c : Char) : Prop :=
  c.toNat ≠ 0x3A3 ∧ lowercaseLetter c = [c]

instance : DecidablePred IsLowercase :=
  fun _ => inferInstanceAs (Decidable (_ ∧ _))

theorem isLowercase_of_target? {r : CaseRun} (hr : r ∈ lowercaseRuns) {m n : Nat}
    (hn : r.target? m = some n) : IsLowercase (Char.ofNat n) := by
  have hnone : lowercaseRuns.findSome? (·.target? n) = none :=
    List.findSome?_eq_none_iff.2 fun s hs =>
      CaseRun.target?_eq_none_of_misses (misses_lowercaseRuns hr hs) hn
  have hdotted : n ≠ 0x130 :=
    CaseRun.ne_of_misses (misses_single r hr 0x130 List.mem_cons_self) hn
  have hsigma : n ≠ 0x3A3 := by
    rintro rfl
    revert hnone
    decide +kernel
  refine ofNat_induction (by decide +kernel) fun c hc => ?_
  subst hc
  refine ⟨hsigma, ?_⟩
  rw [lowercaseLetter, hnone]
  split
  next =>
    rcases toLower_eq_or_mem c with hc | hc
    · rw [hc]
    · -- The capital letters are a run themselves.
      have hall : ∀ n ∈ List.range' 65 26, lowercaseRuns.findSome? (·.target? n) ≠ none := by
        decide +kernel
      exact absurd hnone (hall _ hc)
  next => rw [if_neg fun h => hdotted (beq_iff_eq.1 h)]

/-- What a letter beyond the first characters can become. -/
theorem lowercaseLetter_cases {c : Char} (hc : ¬c.toNat < 0x80) :
    lowercaseLetter c = ['i', Char.ofNat 0x307] ∨
      (∃ r ∈ lowercaseRuns, ∃ n, r.target? c.toNat = some n ∧ lowercaseLetter c = [Char.ofNat n]) ∨
      lowercaseLetter c = [c] := by
  rw [lowercaseLetter, if_neg hc]
  split
  · exact .inl rfl
  · split
    next n hn =>
      obtain ⟨r, hr, hn⟩ := List.exists_of_findSome?_eq_some hn
      exact .inr (.inl ⟨r, hr, n, hn, rfl⟩)
    next => exact .inr (.inr rfl)

theorem isLowercase_of_mem_lowercaseLetter {c : Char} (hsigma : c.toNat ≠ 0x3A3) :
    ∀ d ∈ lowercaseLetter c, IsLowercase d := by
  have hsmall : ∀ n < 0x80,
      (lowercaseLetter (Char.ofNat n)).all (fun d => decide (IsLowercase d)) = true := by
    decide +kernel
  revert hsigma
  refine ascii_induction (motive := fun c => c.toNat ≠ 0x3A3 → ∀ d ∈ lowercaseLetter c, IsLowercase d)
    (fun n hn _ => forall_mem_of_all (hsmall n hn)) (fun c hc hsigma => ?_) c
  rcases lowercaseLetter_cases hc with h | ⟨r, hr, n, hn, h⟩ | h
  · rw [h]
    exact forall_mem_of_all (by decide +kernel)
  · rw [h]
    exact List.forall_mem_singleton.2 (isLowercase_of_target? hr hn)
  · rw [h]
    exact List.forall_mem_singleton.2 ⟨hsigma, h⟩

/-- **Lower case leaves nothing to be lowered.** -/
theorem isLowercase_of_mem_lowercaseFrom {before cs : List Char} :
    ∀ d ∈ lowercaseFrom before cs, IsLowercase d := by
  induction cs generalizing before with
  | nil => exact fun d hd => absurd hd List.not_mem_nil
  | cons c cs ih =>
    rw [lowercaseFrom]
    refine List.forall_mem_append.2 ⟨?_, ih⟩
    split
    next => exact List.forall_mem_singleton.2 (by split <;> decide +kernel)
    next hsigma =>
      exact isLowercase_of_mem_lowercaseLetter fun h => hsigma (beq_iff_eq.2 h)

theorem lowercaseFrom_eq_self {before cs : List Char} (h : ∀ c ∈ cs, IsLowercase c) :
    lowercaseFrom before cs = cs := by
  induction cs generalizing before with
  | nil => rfl
  | cons c cs ih =>
    obtain ⟨⟨hsigma, hself⟩, h⟩ := List.forall_mem_cons.1 h
    rw [lowercaseFrom, if_neg fun h => hsigma (beq_iff_eq.1 h), hself, ih h, List.singleton_append]

theorem lowercaseLetter_of_isBlank {c : Char} (h : isBlank c = true) : lowercaseLetter c = [c] := by
  have hall : ∀ n ∈ blankCodes, lowercaseLetter (Char.ofNat n) = [Char.ofNat n] := by
    decide +kernel
  have hc := hall c.toNat (toNat_mem_blankCodes_iff.2 h)
  rwa [Char.ofNat_toNat] at hc

theorem isBlank_of_target? {r : CaseRun} (hr : r ∈ lowercaseRuns) {m n : Nat}
    (hn : r.target? m = some n) : isBlank (Char.ofNat n) = false := by
  refine ofNat_induction (motive := fun c => isBlank c = false) (by decide) fun c hc => ?_
  refine Bool.eq_false_iff.2 fun hblank => ?_
  have hmem : n ∈ blankCodes := hc ▸ toNat_mem_blankCodes_iff.2 hblank
  exact CaseRun.ne_of_misses (misses_single r hr n (List.mem_cons_of_mem _ hmem)) hn rfl

theorem isBlank_of_mem_lowercaseLetter {c : Char} (hblank : isBlank c = false) :
    ∀ d ∈ lowercaseLetter c, isBlank d = false := by
  have hsmall : ∀ n < 0x80, isBlank (Char.ofNat n) = false →
      (lowercaseLetter (Char.ofNat n)).all (fun d => decide (isBlank d = false)) = true := by
    decide +kernel
  revert hblank
  refine ascii_induction
    (motive := fun c => isBlank c = false → ∀ d ∈ lowercaseLetter c, isBlank d = false)
    (fun n hn hblank => forall_mem_of_all (hsmall n hn hblank)) (fun c hc hblank => ?_) c
  rcases lowercaseLetter_cases hc with h | ⟨r, hr, n, hn, h⟩ | h
  · rw [h]
    exact forall_mem_of_all (by decide)
  · rw [h]
    exact List.forall_mem_singleton.2 (isBlank_of_target? hr hn)
  · rw [h]
    exact List.forall_mem_singleton.2 hblank

theorem lowercaseLetter_ne_nil (c : Char) : lowercaseLetter c ≠ [] := by
  by_cases hc : c.toNat < 0x80
  · rw [lowercaseLetter, if_pos hc]
    exact List.cons_ne_nil _ _
  · rcases lowercaseLetter_cases hc with h | ⟨_, _, _, _, h⟩ | h <;>
    · rw [h]
      exact List.cons_ne_nil _ _

/-- **Lower case keeps blanks and makes none.** -/
theorem relettered_lowercaseFrom (before cs : List Char) :
    Relettered cs (lowercaseFrom before cs) := by
  induction cs generalizing before with
  | nil => exact .nil
  | cons c cs ih =>
    rw [lowercaseFrom]
    split
    next hsigma =>
      have hc : isBlank c = false := by
        refine Bool.eq_false_iff.2 fun hblank => ?_
        have hmem := toNat_mem_blankCodes_iff.2 hblank
        rw [beq_iff_eq.1 hsigma] at hmem
        revert hmem
        decide
      refine .letters hc (List.cons_ne_nil _ _) (List.forall_mem_singleton.2 ?_) (ih _)
      split <;> decide
    next =>
      cases hblank : isBlank c with
      | true =>
        rw [lowercaseLetter_of_isBlank hblank]
        exact .blank hblank (ih _)
      | false =>
        exact .letters hblank (lowercaseLetter_ne_nil c) (isBlank_of_mem_lowercaseLetter hblank) (ih _)

theorem lowercase_eq_self {s : String} (h : ∀ c ∈ s.toList, IsLowercase c) : lowercase s = s := by
  rw [lowercase, lowercaseFrom_eq_self h, String.ofList_toList]

end Text

namespace Sql.TypeName

open Text

/-! ### Usual names -/

/-- The names that others are written as. -/
def usualNames : List String :=
  ["integer", "bigint", "smallint", "serial", "bigserial", "boolean", "character varying",
    "character", "double precision", "real", "numeric", "timestamp", "timestamp with time zone",
    "time with time zone", "time"]

theorem canonical_mem_or_eq (s : String) : canonical s ∈ usualNames ∨ canonical s = s := by
  unfold canonical
  split
  all_goals first | exact .inr rfl | exact .inl (by decide)

/-- What a text must be to be what a type name in normal form begins with. -/
structure IsBase (cs : List Char) : Prop where
  spaced : EvenlySpaced cs
  lowercase : ∀ c ∈ cs, IsLowercase c
  closed : ∀ c ∈ cs, opensModifiers c = false

theorem isBase_of_mem_usualNames : ∀ name ∈ usualNames, IsBase name.toList := by
  have hspaced : ∀ name ∈ usualNames, normalizeSpace name = name := by decide +kernel
  have hlowercase : ∀ name ∈ usualNames,
      name.toList.all (fun c => decide (IsLowercase c)) = true := by
    decide +kernel
  have hclosed : ∀ name ∈ usualNames,
      name.toList.all (fun c => decide (opensModifiers c = false)) = true := by
    decide +kernel
  exact fun name h => ⟨normalizeSpace_eq_self_iff.1 (hspaced name h),
    forall_mem_of_all (hlowercase name h), forall_mem_of_all (hclosed name h)⟩

theorem canonical_canonical (s : String) : canonical (canonical s) = canonical s := by
  have hall : ∀ name ∈ usualNames, canonical name = name := by decide +kernel
  rcases canonical_mem_or_eq s with h | h
  · exact hall _ h
  · rw [h, h]

theorem IsBase.canonical {cs : List Char} (h : IsBase cs) :
    IsBase (TypeName.canonical (String.ofList cs)).toList := by
  rcases canonical_mem_or_eq (String.ofList cs) with hname | hname
  · exact isBase_of_mem_usualNames _ hname
  · rw [hname, String.toList_ofList]
    exact h

/-! ### The two parts of a type name -/

/-- What stands before the modifiers of a type. -/
def baseOf (cs : List Char) : List Char :=
  cs.takeWhile (!opensModifiers ·)

/-- The modifiers of a type. -/
def modifiersOf (cs : List Char) : List Char :=
  cs.dropWhile (!opensModifiers ·)

theorem baseOf_append_modifiersOf (cs : List Char) : baseOf cs ++ modifiersOf cs = cs :=
  List.takeWhile_append_dropWhile

theorem opensModifiers_of_mem_baseOf {cs : List Char} :
    ∀ c ∈ baseOf cs, opensModifiers c = false := by
  intro c hc
  have h := List.all_eq_true.1 List.all_takeWhile c hc
  rwa [Bool.not_eq_true'] at h

theorem opensModifiers_of_mem_head?_modifiersOf {cs : List Char} :
    ∀ c ∈ (modifiersOf cs).head?, opensModifiers c = true := by
  intro c hc
  have h := List.head?_dropWhile_not (!opensModifiers ·) cs
  rw [modifiersOf, Option.mem_def] at hc
  rw [hc] at h
  exact (Bool.not_eq_false' _).mp h

theorem opensModifiers_of_mem_head?_filter {cs : List Char}
    (h : ∀ c ∈ cs.head?, opensModifiers c = true) :
    ∀ c ∈ (cs.filter (· != ' ')).head?, opensModifiers c = true := by
  cases cs with
  | nil => exact h
  | cons d cs =>
    have hd : opensModifiers d = true := h d rfl
    have hkept : (d != ' ') = true := bne_iff_ne.2 fun hspace => by
      rw [hspace] at hd
      exact absurd hd (by decide)
    rw [List.filter_cons, if_pos hkept]
    exact h

section Append

variable {base modifiers : List Char} (hbase : ∀ c ∈ base, opensModifiers c = false)
  (hmodifiers : ∀ c ∈ modifiers.head?, opensModifiers c = true)

include hbase hmodifiers

theorem baseOf_append : baseOf (base ++ modifiers) = base := by
  rw [baseOf, List.takeWhile_append_of_pos fun c hc => by rw [hbase c hc]; rfl]
  cases modifiers with
  | nil => rw [List.takeWhile_nil, List.append_nil]
  | cons c modifiers =>
    rw [List.takeWhile_cons, hmodifiers c rfl, if_neg (by decide), List.append_nil]

theorem modifiersOf_append : modifiersOf (base ++ modifiers) = modifiers := by
  rw [modifiersOf, List.dropWhile_append_of_pos fun c hc => by rw [hbase c hc]; rfl]
  cases modifiers with
  | nil => rfl
  | cons c modifiers => rw [List.dropWhile_cons, hmodifiers c rfl, if_neg (by decide)]

end Append

/-! ### The normal form of type names -/

/-- A text as the normal form of type names has it. -/
structure IsTypeForm (cs : List Char) : Prop where
  spaced : EvenlySpaced (baseOf cs)
  lowercase : ∀ c ∈ cs, IsLowercase c
  usual : canonical (String.ofList (baseOf cs)) = String.ofList (baseOf cs)
  tight : ∀ c ∈ modifiersOf cs, isBlank c = false

/-- What stands before the modifiers, without the blanks that only set it off from them. -/
def trimmedBase (cs : List Char) : List Char :=
  if (modifiersOf cs).isEmpty then baseOf cs else dropEndWhile isBlank (baseOf cs)

/-- The modifiers without spaces. -/
def tightModifiers (cs : List Char) : List Char :=
  (modifiersOf cs).filter (· != ' ')

theorem toList_normalize {s : String} {cs : List Char}
    (h : (Text.lowercase (normalizeSpace s)).toList = cs) :
    (normalize s).toList = (canonical (String.ofList (trimmedBase cs))).toList ++ tightModifiers cs := by
  rw [normalize, h, String.toList_append, String.toList_ofList]
  rfl

section Lowered

variable {cs : List Char} (hspaced : EvenlySpaced cs) (hlowercase : ∀ c ∈ cs, IsLowercase c)

include hspaced hlowercase

theorem isBase_trimmedBase : IsBase (trimmedBase cs) := by
  have hbase : baseOf cs <+: cs := List.takeWhile_prefix _
  rw [trimmedBase]
  split
  next hnil =>
    have hall : baseOf cs = cs := by
      conv_rhs => rw [← baseOf_append_modifiersOf cs, List.isEmpty_iff.1 hnil, List.append_nil]
    refine ⟨?_, fun c hc => hlowercase c (hbase.subset hc), opensModifiers_of_mem_baseOf⟩
    rw [hall]
    exact hspaced
  next =>
    have htrimmed := dropEndWhile_isPrefix isBlank (baseOf cs)
    exact ⟨hspaced.of_isPrefix (htrimmed.trans hbase) (endsBare_dropEndWhile _),
      fun c hc => hlowercase c ((htrimmed.trans hbase).subset hc),
      fun c hc => opensModifiers_of_mem_baseOf c (htrimmed.subset hc)⟩

theorem isTypeForm_append :
    IsTypeForm ((canonical (String.ofList (trimmedBase cs))).toList ++ tightModifiers cs) := by
  have hbase : IsBase (canonical (String.ofList (trimmedBase cs))).toList :=
    (isBase_trimmedBase hspaced hlowercase).canonical
  have hsubset : ∀ c ∈ tightModifiers cs, c ∈ cs ∧ isBlank c = false := by
    intro c hc
    obtain ⟨hc, hspace⟩ := List.mem_filter.1 hc
    have hmem : c ∈ cs := (List.dropWhile_suffix _).subset hc
    refine ⟨hmem, Bool.eq_false_iff.2 fun hblank => ?_⟩
    rw [hspaced.spaces c hmem hblank] at hspace
    exact absurd hspace (by decide)
  have hopens : ∀ c ∈ (tightModifiers cs).head?, opensModifiers c = true :=
    opensModifiers_of_mem_head?_filter opensModifiers_of_mem_head?_modifiersOf
  constructor
  case spaced =>
    rw [baseOf_append hbase.closed hopens]
    exact hbase.spaced
  case lowercase =>
    exact List.forall_mem_append.2 ⟨hbase.lowercase, fun c hc => hlowercase c (hsubset c hc).1⟩
  case usual =>
    rw [baseOf_append hbase.closed hopens, String.ofList_toList]
    exact canonical_canonical _
  case tight =>
    rw [modifiersOf_append hbase.closed hopens]
    exact fun c hc => (hsubset c hc).2

end Lowered

theorem isTypeForm_normalize (s : String) : IsTypeForm (normalize s).toList := by
  have hlowered : (Text.lowercase (normalizeSpace s)).toList =
      lowercaseFrom [] (collapse (stripWhile isBlank s.toList)) := by
    rw [Text.lowercase, String.toList_ofList, normalizeSpace, String.toList_ofList]
  rw [toList_normalize hlowered]
  exact isTypeForm_append
    ((relettered_lowercaseFrom [] _).evenlySpaced (evenlySpaced_collapse s.toList))
    isLowercase_of_mem_lowercaseFrom

/-- **The names in normal form are those that normalizing leaves as they are.** -/
theorem normalize_eq_self_iff {s : String} : normalize s = s ↔ IsTypeForm s.toList := by
  constructor
  · intro h
    have hform := isTypeForm_normalize s
    rwa [h] at hform
  · intro h
    have hspaced : EvenlySpaced s.toList := by
      rw [← baseOf_append_modifiersOf s.toList]
      exact h.spaced.append h.tight
    have hlowered : (Text.lowercase (normalizeSpace s)).toList = s.toList := by
      rw [normalizeSpace_eq_self_iff.2 hspaced, lowercase_eq_self h.lowercase]
    have hbase : trimmedBase s.toList = baseOf s.toList := by
      rw [trimmedBase, h.spaced.ends.dropEndWhile_eq, ite_self]
    have hmodifiers : tightModifiers s.toList = modifiersOf s.toList := by
      refine List.filter_eq_self.2 fun c hc => bne_iff_ne.2 ?_
      rintro rfl
      exact absurd (h.tight ' ' hc) (by decide)
    rw [← String.toList_inj, toList_normalize hlowered, hbase, hmodifiers, h.usual,
      String.toList_ofList, baseOf_append_modifiersOf]

end Sql.TypeName

/-! ### Normalizing twice -/

/-- **Every text is the same as its own normal form.**  None of the three ways of normalizing
changes what it has made. -/
theorem Sql.normal_forms_settled (s : String) :
    normalizeSpace (normalizeSpace s) = normalizeSpace s ∧
    normalizeExpression (normalizeExpression s) = normalizeExpression s ∧
    TypeName.normalize (TypeName.normalize s) = TypeName.normalize s ∧
    sameExpression s (normalizeExpression s) = true ∧
    TypeName.same s (TypeName.normalize s) = true := by
  have hspace : normalizeSpace (normalizeSpace s) = normalizeSpace s := by
    refine normalizeSpace_eq_self_iff.2 ?_
    rw [normalizeSpace, String.toList_ofList]
    exact evenlySpaced_collapse s.toList
  have hexpression : normalizeExpression (normalizeExpression s) = normalizeExpression s := by
    refine normalizeExpression_eq_self_iff.2 ?_
    rw [normalizeExpression_eq, String.toList_ofList]
    exact isExpressionForm_expressionForm s.toList
  have htype : TypeName.normalize (TypeName.normalize s) = TypeName.normalize s :=
    TypeName.normalize_eq_self_iff.2 (TypeName.isTypeForm_normalize s)
  refine ⟨hspace, hexpression, htype, ?_, ?_⟩
  · rw [sameExpression, hexpression]
    exact beq_self_eq_true _
  · rw [TypeName.same, htype]
    exact beq_self_eq_true _

end SchemaPlan
