import Mathlib.Data.List.Chain
import SchemaPlan.Proofs.Marks

/-!
# Normal forms of expressions

Expressions are normalized in four passes: blanks become single spaces, casts become lower case, and
blanks are dropped behind opening and before closing parentheses.  Each pass has a property of texts
that it brings about and that texts must have for it to change nothing.

Normalizing twice is normalizing once because no pass spoils what an earlier one has done.  Lower case
leaves blanks alone (`Relettered`), and what holds between neighbours goes on to hold where blanks
beside parentheses are dropped (`isChain_dropAfterOpen`, `isChain_dropBeforeClose`), since a
parenthesis may stand beside anything.  Whether a cast begins is decided by two colons and a letter
right behind one another, so the casts are the same with those blanks or without
(`lowerCasts_dropAfterOpen`, `lowerCasts_dropBeforeClose`).

`normalizeSpace_eq_self_iff` and `normalizeExpression_eq_self_iff` say which texts are in normal form.
-/

namespace SchemaPlan.Sql

open SchemaPlan.Text

/-! ### Ends without blanks -/

/-- A text does not begin with a blank. -/
def StartsBare (cs : List Char) : Prop :=
  ∀ c ∈ cs.head?, isBlank c = false

/-- A text does not end with a blank. -/
def EndsBare (cs : List Char) : Prop :=
  ∀ c ∈ cs.getLast?, isBlank c = false

theorem startsBare_cons {c : Char} {cs : List Char} :
    StartsBare (c :: cs) ↔ isBlank c = false := by
  simp [StartsBare]

theorem endsBare_cons {c : Char} {cs : List Char} :
    EndsBare (c :: cs) ↔ (cs = [] → isBlank c = false) ∧ EndsBare cs := by
  cases cs with
  | nil => simp [EndsBare]
  | cons d cs => simp [EndsBare, List.getLast?_cons_cons]

theorem any_isBlank_eq_false_iff {cs : List Char} :
    cs.head?.any isBlank = false ↔ StartsBare cs := by
  cases cs <;> simp [StartsBare]

theorem startsBare_dropWhile (cs : List Char) : StartsBare (cs.dropWhile isBlank) := by
  intro c hc
  have h := List.head?_dropWhile_not isBlank cs
  rw [hc] at h
  exact h

theorem StartsBare.dropWhile_eq {cs : List Char} (h : StartsBare cs) :
    cs.dropWhile isBlank = cs := by
  cases cs with
  | nil => rfl
  | cons c cs => rw [List.dropWhile_cons, startsBare_cons.1 h, if_neg Bool.false_ne_true]

theorem endsBare_dropEndWhile (cs : List Char) : EndsBare (dropEndWhile isBlank cs) := by
  rw [EndsBare, dropEndWhile, List.getLast?_reverse]
  exact startsBare_dropWhile cs.reverse

theorem EndsBare.dropEndWhile_eq {cs : List Char} (h : EndsBare cs) :
    dropEndWhile isBlank cs = cs := by
  have hreverse : StartsBare cs.reverse := by
    rw [StartsBare, List.head?_reverse]
    exact h
  rw [dropEndWhile, hreverse.dropWhile_eq, List.reverse_reverse]

theorem dropEndWhile_isPrefix {α : Type} (p : α → Bool) (cs : List α) : dropEndWhile p cs <+: cs := by
  rw [dropEndWhile, ← List.reverse_suffix, List.reverse_reverse]
  exact List.dropWhile_suffix p

theorem StartsBare.of_isPrefix {cs ds : List Char} (h : StartsBare cs) (hp : ds <+: cs) :
    StartsBare ds := by
  obtain ⟨rest, rfl⟩ := hp
  intro c hc
  exact h c (List.mem_head?_append_of_mem_head? hc)

theorem startsBare_stripWhile (cs : List Char) : StartsBare (stripWhile isBlank cs) :=
  (startsBare_dropWhile cs).of_isPrefix (dropEndWhile_isPrefix isBlank _)

theorem endsBare_stripWhile (cs : List Char) : EndsBare (stripWhile isBlank cs) :=
  endsBare_dropEndWhile _

/-! ### Single spaces -/

/-- No two blanks stand side by side. -/
def SingleBlanks (cs : List Char) : Prop :=
  cs.IsChain fun a b => ¬(isBlank a = true ∧ isBlank b = true)

/-- A text whose only blanks are single spaces between other characters. -/
structure EvenlySpaced (cs : List Char) : Prop where
  starts : StartsBare cs
  ends : EndsBare cs
  single : SingleBlanks cs
  spaces : ∀ c ∈ cs, isBlank c = true → c = ' '

theorem EvenlySpaced.of_isPrefix {cs ds : List Char} (h : EvenlySpaced cs) (hp : ds <+: cs)
    (hends : EndsBare ds) : EvenlySpaced ds where
  starts := h.starts.of_isPrefix hp
  ends := hends
  single := by
    obtain ⟨rest, rfl⟩ := hp
    exact List.IsChain.left_of_append h.single
  spaces c hc := h.spaces c (hp.subset hc)

/-- What has no blanks may stand behind an evenly spaced text. -/
theorem EvenlySpaced.append {cs ds : List Char} (h : EvenlySpaced cs)
    (hds : ∀ d ∈ ds, isBlank d = false) : EvenlySpaced (cs ++ ds) where
  starts c hc := by
    rw [Option.mem_def, List.head?_append] at hc
    rcases Option.or_eq_some_iff.1 hc with hc | ⟨-, hc⟩
    · exact h.starts c hc
    · exact hds c (List.mem_of_mem_head? hc)
  ends c hc := by
    rw [Option.mem_def, List.getLast?_append] at hc
    rcases Option.or_eq_some_iff.1 hc with hc | ⟨-, hc⟩
    · exact hds c (List.mem_of_getLast? hc)
    · exact h.ends c hc
  single := by
    have hsingle : SingleBlanks ds := by
      rw [SingleBlanks, List.isChain_iff_getElem]
      rintro i hi ⟨hblank, -⟩
      cases hblank.symm.trans (hds _ (List.getElem_mem _))
    refine List.isChain_append.2 ⟨h.single, hsingle, ?_⟩
    rintro c hc d - ⟨hblank, -⟩
    cases hblank.symm.trans (h.ends c hc)
  spaces := by
    refine List.forall_mem_append.2 ⟨h.spaces, fun d hd hblank => ?_⟩
    cases hblank.symm.trans (hds d hd)

theorem singleBlanks_cons {c : Char} {cs : List Char} : SingleBlanks (c :: cs) ↔
    (isBlank c = true → StartsBare cs) ∧ SingleBlanks cs := by
  rw [SingleBlanks, List.isChain_cons]
  refine and_congr_left fun _ => ?_
  constructor
  · intro h hc d hd
    exact Bool.eq_false_iff.2 fun hblank => h d hd ⟨hc, hblank⟩
  · rintro h d hd ⟨hc, hblank⟩
    cases hblank.symm.trans (h hc d hd)

theorem startsBare_collapse {cs : List Char} : StartsBare (collapse cs) ↔ StartsBare cs := by
  induction cs with
  | nil => exact Iff.rfl
  | cons c cs ih =>
    rw [collapse]
    split
    next hc =>
      rw [startsBare_cons, hc]
      split
      next hnext =>
        rw [ih, ← any_isBlank_eq_false_iff, hnext]
      next =>
        rw [startsBare_cons]
        decide
    next => rw [startsBare_cons, startsBare_cons]

theorem EndsBare.collapse {cs : List Char} (h : EndsBare cs) : EndsBare (collapse cs) := by
  induction cs with
  | nil => exact h
  | cons c cs ih =>
    obtain ⟨hc, h⟩ := endsBare_cons.1 h
    rw [Sql.collapse]
    split
    next hblank =>
      split
      · exact ih h
      · refine endsBare_cons.2 ⟨fun hnil => ?_, ih h⟩
        have hcs : cs = [] := Classical.not_not.1 fun hne =>
          sparesMarks_collapse.ne_nil cs hne hnil
        cases hblank.symm.trans (hc hcs)
    next hc => exact endsBare_cons.2 ⟨fun _ => Bool.eq_false_iff.2 hc, ih h⟩

theorem singleBlanks_collapse (cs : List Char) : SingleBlanks (collapse cs) := by
  induction cs with
  | nil => exact List.isChain_nil
  | cons c cs ih =>
    rw [collapse]
    split
    next =>
      split
      next => exact ih
      next hnext =>
        refine singleBlanks_cons.2 ⟨fun _ => startsBare_collapse.2 ?_, ih⟩
        exact any_isBlank_eq_false_iff.1 (Bool.eq_false_iff.2 hnext)
    next hc => exact singleBlanks_cons.2 ⟨fun hblank => absurd hblank hc, ih⟩

theorem eq_space_of_mem_collapse {cs : List Char} :
    ∀ c ∈ collapse cs, isBlank c = true → c = ' ' := by
  induction cs with
  | nil => exact fun c hc => absurd hc List.not_mem_nil
  | cons d cs ih =>
    rw [collapse]
    split
    next =>
      split
      next => exact ih
      next => exact List.forall_mem_cons.2 ⟨fun _ => rfl, ih⟩
    next hd => exact List.forall_mem_cons.2 ⟨fun hblank => absurd hblank hd, ih⟩

/-- **Blanks are spaced evenly.** -/
theorem evenlySpaced_collapse (cs : List Char) : EvenlySpaced (collapse (stripWhile isBlank cs)) where
  starts := startsBare_collapse.2 (startsBare_stripWhile cs)
  ends := (endsBare_stripWhile cs).collapse
  single := singleBlanks_collapse _
  spaces := eq_space_of_mem_collapse

theorem collapse_eq_self {cs : List Char} (hsingle : SingleBlanks cs)
    (hspaces : ∀ c ∈ cs, isBlank c = true → c = ' ') : collapse cs = cs := by
  induction cs with
  | nil => rfl
  | cons c cs ih =>
    obtain ⟨hnext, hsingle⟩ := singleBlanks_cons.1 hsingle
    obtain ⟨hc, hspaces⟩ := List.forall_mem_cons.1 hspaces
    rw [collapse, ih hsingle hspaces]
    split
    next hblank =>
      rw [any_isBlank_eq_false_iff.2 (hnext hblank), if_neg Bool.false_ne_true, hc hblank]
    next => rfl

theorem EvenlySpaced.collapse_eq {cs : List Char} (h : EvenlySpaced cs) :
    collapse (stripWhile isBlank cs) = cs := by
  rw [stripWhile, h.starts.dropWhile_eq, h.ends.dropEndWhile_eq, collapse_eq_self h.single h.spaces]

theorem normalizeSpace_eq_self_iff {s : String} :
    normalizeSpace s = s ↔ EvenlySpaced s.toList := by
  constructor
  · intro h
    rw [← h, normalizeSpace, String.toList_ofList]
    exact evenlySpaced_collapse s.toList
  · intro h
    rw [normalizeSpace, h.collapse_eq, String.ofList_toList]

/-! ### Letters in the place of letters -/

/-- A text with other characters in the place of each that is not blank. -/
inductive Relettered : List Char → List Char → Prop
  | nil : Relettered [] []
  | blank {c : Char} {cs ds : List Char} (hc : isBlank c = true) (h : Relettered cs ds) :
    Relettered (c :: cs) (c :: ds)
  | letters {c : Char} {cs letters ds : List Char} (hc : isBlank c = false) (hne : letters ≠ [])
    (hletters : ∀ d ∈ letters, isBlank d = false) (h : Relettered cs ds) :
    Relettered (c :: cs) (letters ++ ds)

namespace Relettered

variable {cs ds : List Char}

theorem startsBare_iff (h : Relettered cs ds) : StartsBare ds ↔ StartsBare cs := by
  cases h with
  | nil => exact Iff.rfl
  | blank hc h => rw [startsBare_cons, startsBare_cons]
  | @letters c cs letters ds hc hne hletters h =>
    obtain ⟨d, letters, rfl⟩ := List.exists_cons_of_ne_nil hne
    rw [List.cons_append, startsBare_cons, startsBare_cons, hc,
      hletters d List.mem_cons_self]

theorem eq_nil (h : Relettered cs ds) (hds : ds = []) : cs = [] := by
  cases h with
  | nil => rfl
  | blank => cases hds
  | letters _ hne => exact absurd (List.append_eq_nil_iff.1 hds).1 hne

theorem endsBare (h : Relettered cs ds) (hcs : EndsBare cs) : EndsBare ds := by
  induction h with
  | nil => exact hcs
  | @blank c cs ds hc h ih =>
    obtain ⟨hlast, hcs⟩ := endsBare_cons.1 hcs
    exact endsBare_cons.2 ⟨fun hds => hlast (h.eq_nil hds), ih hcs⟩
  | @letters c cs letters ds hc hne hletters h ih =>
    intro d hd
    rw [Option.mem_def, List.getLast?_append] at hd
    rcases Option.or_eq_some_iff.1 hd with hd | ⟨-, hd⟩
    · exact ih (endsBare_cons.1 hcs).2 d hd
    · exact hletters d (List.mem_of_getLast? hd)

theorem singleBlanks (h : Relettered cs ds) (hcs : SingleBlanks cs) : SingleBlanks ds := by
  induction h with
  | nil => exact hcs
  | @blank c cs ds hc h ih =>
    obtain ⟨hnext, hcs⟩ := singleBlanks_cons.1 hcs
    exact singleBlanks_cons.2 ⟨fun hblank => h.startsBare_iff.2 (hnext hblank), ih hcs⟩
  | @letters c cs letters ds hc hne hletters h ih =>
    have hds := ih (singleBlanks_cons.1 hcs).2
    clear hne
    induction letters with
    | nil => exact hds
    | cons d letters ihl =>
      obtain ⟨hd, hletters⟩ := List.forall_mem_cons.1 hletters
      refine singleBlanks_cons.2 ⟨fun hblank => ?_, ihl hletters⟩
      cases hblank.symm.trans hd

theorem eq_space_of_mem (h : Relettered cs ds) (hcs : ∀ c ∈ cs, isBlank c = true → c = ' ') :
    ∀ d ∈ ds, isBlank d = true → d = ' ' := by
  induction h with
  | nil => exact hcs
  | @blank c cs ds hc h ih =>
    obtain ⟨hc, hcs⟩ := List.forall_mem_cons.1 hcs
    exact List.forall_mem_cons.2 ⟨hc, ih hcs⟩
  | @letters c cs letters ds hc hne hletters h ih =>
    refine List.forall_mem_append.2 ⟨fun d hd hblank => ?_, ih (List.forall_mem_cons.1 hcs).2⟩
    cases hblank.symm.trans (hletters d hd)

/-- Spaces stay as they are. -/
theorem evenlySpaced (h : Relettered cs ds) (hcs : EvenlySpaced cs) : EvenlySpaced ds where
  starts := h.startsBare_iff.2 hcs.starts
  ends := h.endsBare hcs.ends
  single := h.singleBlanks hcs.single
  spaces := h.eq_space_of_mem hcs.spaces

end Relettered

/-! ### Casts -/

section Steps

variable {prev : Option Char} {inCast afterOpen : Bool} {c : Char} {cs : List Char}

theorem lowerCasts_cons_of_cast (h : (inCast && isCastChar c) = true) :
    lowerCasts prev inCast (c :: cs) = c.toLower :: lowerCasts (some c) true cs := by
  rw [lowerCasts, if_pos h]

theorem lowerCasts_cons_of_not_cast (h : (inCast && isCastChar c) = false) :
    lowerCasts prev inCast (c :: cs) = c ::
      lowerCasts (some c) (c == ':' && prev == some ':' && cs.head?.any Char.isAlpha) cs := by
  rw [lowerCasts, if_neg (Bool.eq_false_iff.1 h)]

theorem lowerCasts_cons_of_ne (h : (inCast && isCastChar c) = false) (hcolon : c ≠ ':') :
    lowerCasts prev inCast (c :: cs) = c :: lowerCasts none false cs := by
  rw [lowerCasts_cons_of_not_cast h, beq_false_of_ne hcolon, Bool.false_and, Bool.false_and,
    lowerCasts_of_ne fun he => hcolon (Option.some.inj he)]

theorem dropAfterOpen_cons_of_dropped (h : (afterOpen && isBlank c) = true) :
    dropAfterOpen afterOpen (c :: cs) = dropAfterOpen true cs := by
  rw [dropAfterOpen, if_pos h]

theorem dropAfterOpen_cons_of_kept (h : (afterOpen && isBlank c) = false) :
    dropAfterOpen afterOpen (c :: cs) = c :: dropAfterOpen (c == '(') cs := by
  rw [dropAfterOpen, if_neg (Bool.eq_false_iff.1 h)]

theorem dropBeforeClose_cons_of_dropped (hblank : isBlank c = true)
    (hclose : (cs.dropWhile isBlank).head? = some ')') :
    dropBeforeClose (c :: cs) = dropBeforeClose cs := by
  rw [dropBeforeClose, if_pos (Bool.and_eq_true_iff.2 ⟨hblank, beq_iff_eq.2 hclose⟩)]

theorem dropBeforeClose_cons_of_kept
    (h : ¬(isBlank c = true ∧ (cs.dropWhile isBlank).head? = some ')')) :
    dropBeforeClose (c :: cs) = c :: dropBeforeClose cs := by
  rw [dropBeforeClose, if_neg]
  intro hdropped
  obtain ⟨hblank, hclose⟩ := Bool.and_eq_true_iff.1 hdropped
  exact h ⟨hblank, beq_iff_eq.1 hclose⟩

end Steps

/-- The code points of all blanks. -/
def blankCodes : List Nat :=
  [9, 10, 11, 12, 13, 0x20, 0x85, 0xA0, 0x1680, 0x2000, 0x2001, 0x2002, 0x2003, 0x2004, 0x2005,
    0x2006, 0x2007, 0x2008, 0x2009, 0x200A, 0x2028, 0x2029, 0x202F, 0x205F, 0x3000]

theorem toNat_mem_blankCodes_iff {c : Char} : c.toNat ∈ blankCodes ↔ isBlank c = true := by
  simp only [isBlank, Bool.or_eq_true, Bool.and_eq_true, decide_eq_true_eq, beq_iff_eq, blankCodes,
    List.mem_cons, List.not_mem_nil, or_false]
  omega

theorem isCastChar_of_isBlank {c : Char} (h : isBlank c = true) : isCastChar c = false := by
  have hall : ∀ n ∈ blankCodes, isCastChar (Char.ofNat n) = false := by decide +kernel
  have hc := hall c.toNat (toNat_mem_blankCodes_iff.2 h)
  rwa [Char.ofNat_toNat] at hc

theorem isBlank_of_isCastChar {c : Char} (h : isCastChar c = true) : isBlank c = false :=
  Bool.eq_false_iff.2 fun hblank => by cases h.symm.trans (isCastChar_of_isBlank hblank)

theorem isAlpha_of_isBlank {c : Char} (h : isBlank c = true) : c.isAlpha = false := by
  have hall : ∀ n ∈ blankCodes, (Char.ofNat n).isAlpha = false := by decide +kernel
  have hc := hall c.toNat (toNat_mem_blankCodes_iff.2 h)
  rwa [Char.ofNat_toNat] at hc

/-- What holds of capital letters and of characters that are their own lower case holds of all. -/
theorem toLower_induction {motive : Char → Char → Prop} (same : ∀ c, c.toLower = c → motive c c)
    (capital : ∀ n ∈ List.range' 65 26, motive (Char.ofNat n) (Char.ofNat n).toLower) (c : Char) :
    motive c c.toLower := by
  rcases toLower_eq_or_mem c with hc | hc
  · rw [hc]
    exact same c hc
  · have h := capital c.toNat hc
    rwa [Char.ofNat_toNat] at h

theorem isBlank_toLower (c : Char) : isBlank c.toLower = isBlank c :=
  toLower_induction (motive := fun c d => isBlank d = isBlank c) (fun _ _ => rfl)
    (by decide +kernel) c

theorem isCastChar_toLower (c : Char) : isCastChar c.toLower = isCastChar c :=
  toLower_induction (motive := fun c d => isCastChar d = isCastChar c) (fun _ _ => rfl)
    (by decide +kernel) c

theorem isAlpha_toLower (c : Char) : c.toLower.isAlpha = c.isAlpha :=
  toLower_induction (motive := fun c d => d.isAlpha = c.isAlpha) (fun _ _ => rfl)
    (by decide +kernel) c

theorem toLower_toLower (c : Char) : c.toLower.toLower = c.toLower :=
  toLower_induction (motive := fun _ d => d.toLower = d) (fun _ h => h) (by decide +kernel) c

theorem relettered_lowerCasts (prev : Option Char) (inCast : Bool) (cs : List Char) :
    Relettered cs (lowerCasts prev inCast cs) := by
  induction cs generalizing prev inCast with
  | nil => exact .nil
  | cons c cs ih =>
    rw [lowerCasts]
    cases hblank : isBlank c with
    | true =>
      rw [isCastChar_of_isBlank hblank, Bool.and_false, if_neg Bool.false_ne_true]
      exact .blank hblank (ih _ _)
    | false =>
      split
      · exact .letters hblank (List.cons_ne_nil _ []) (by simpa [isBlank_toLower]) (ih _ _)
      · exact .letters hblank (List.cons_ne_nil _ []) (by simpa) (ih _ _)

theorem ne_of_isCastChar {c d : Char} (hc : isCastChar c = true) (hd : isCastChar d = false) :
    c ≠ d := by
  rintro rfl
  cases hc.symm.trans hd

/-- A cast begins in the same way whatever case it is in. -/
theorem any_isAlpha_lowerCasts (prev : Option Char) (inCast : Bool) (cs : List Char) :
    (lowerCasts prev inCast cs).head?.any Char.isAlpha = cs.head?.any Char.isAlpha := by
  cases cs with
  | nil => rfl
  | cons c cs =>
    rw [lowerCasts]
    split
    · exact isAlpha_toLower c
    · rfl

/-- Casts that have been written in lower case stay as they are. -/
theorem lowerCasts_lowerCasts {prev prev' : Option Char} (hprev : prev = some ':' ↔ prev' = some ':')
    (inCast : Bool) (cs : List Char) :
    lowerCasts prev' inCast (lowerCasts prev inCast cs) = lowerCasts prev inCast cs := by
  induction cs generalizing prev prev' inCast with
  | nil => rfl
  | cons c cs ih =>
    cases hcast : inCast && isCastChar c with
    | true =>
      have hc := (Bool.and_eq_true_iff.1 hcast).2
      have hcast' : (inCast && isCastChar c.toLower) = true := by rw [isCastChar_toLower, hcast]
      rw [lowerCasts_cons_of_cast hcast, lowerCasts_cons_of_cast hcast', toLower_toLower, ih]
      have hne : some c ≠ some ':' := fun he => ne_of_isCastChar hc (by decide) (Option.some.inj he)
      have hne' : some c.toLower ≠ some ':' := fun he =>
        ne_of_isCastChar ((isCastChar_toLower c).trans hc) (by decide) (Option.some.inj he)
      exact iff_of_false hne hne'
    | false =>
      have hflag : (c == ':' && prev' == some ':') = (c == ':' && prev == some ':') := by
        congr 1
        exact Bool.eq_iff_iff.2 (beq_iff_eq.trans (hprev.symm.trans beq_iff_eq.symm))
      rw [lowerCasts_cons_of_not_cast hcast, lowerCasts_cons_of_not_cast hcast,
        any_isAlpha_lowerCasts, hflag, ih Iff.rfl]

theorem lowerCasts_of_head? {c : Char} (hcast : isCastChar c = false) (hcolon : c ≠ ':')
    {cs : List Char} (h : cs.head? = some c) (prev : Option Char) (inCast : Bool) :
    lowerCasts prev inCast cs = lowerCasts none false cs := by
  obtain ⟨cs, rfl⟩ := List.head?_eq_some_iff.1 h
  rw [lowerCasts, lowerCasts, hcast, Bool.and_false, Bool.and_false, beq_false_of_ne hcolon]
  rfl

/-! ### Parentheses -/

/-- No blank follows an opening parenthesis. -/
def TightBehind (cs : List Char) : Prop :=
  cs.IsChain fun a b => ¬(a = '(' ∧ isBlank b = true)

/-- No blank precedes a closing parenthesis. -/
def TightBefore (cs : List Char) : Prop :=
  cs.IsChain fun a b => ¬(isBlank a = true ∧ b = ')')

theorem head?_dropAfterOpen_true (cs : List Char) :
    (dropAfterOpen true cs).head? = (cs.dropWhile isBlank).head? := by
  induction cs with
  | nil => rfl
  | cons c cs ih =>
    rw [dropAfterOpen, Bool.true_and, List.dropWhile_cons]
    split
    · exact ih
    · rfl

theorem head?_dropAfterOpen_false (cs : List Char) :
    (dropAfterOpen false cs).head? = cs.head? := by
  cases cs <;> rfl

/-- What may follow an opening parenthesis whatever it is goes on to hold between neighbours. -/
theorem isChain_dropAfterOpen {r : Char → Char → Prop} (hopen : ∀ c, r '(' c) {cs : List Char}
    (h : cs.IsChain r) (afterOpen : Bool) : (dropAfterOpen afterOpen cs).IsChain r := by
  induction cs generalizing afterOpen with
  | nil => exact List.isChain_nil
  | cons c cs ih =>
    obtain ⟨hnext, h⟩ := List.isChain_cons.1 h
    rw [dropAfterOpen]
    split
    · exact ih h true
    · refine List.isChain_cons.2 ⟨fun d hd => ?_, ih h _⟩
      cases hc : c == '(' with
      | true =>
        rw [eq_of_beq hc]
        exact hopen d
      | false =>
        rw [hc, head?_dropAfterOpen_false] at hd
        exact hnext d hd

theorem tightBehind_dropAfterOpen (afterOpen : Bool) (cs : List Char) :
    TightBehind (dropAfterOpen afterOpen cs) := by
  induction cs generalizing afterOpen with
  | nil => exact List.isChain_nil
  | cons c cs ih =>
    rw [dropAfterOpen]
    split
    · exact ih true
    · refine List.isChain_cons.2 ⟨?_, ih _⟩
      rintro d hd ⟨rfl, hblank⟩
      have hd' : d ∈ (dropAfterOpen true cs).head? := hd
      rw [head?_dropAfterOpen_true] at hd'
      cases hblank.symm.trans (startsBare_dropWhile cs d hd')

theorem dropAfterOpen_eq_self {cs : List Char} (h : TightBehind cs) :
    dropAfterOpen false cs = cs := by
  have hgeneral : ∀ afterOpen, (afterOpen = true → StartsBare cs) →
      dropAfterOpen afterOpen cs = cs := by
    induction cs with
    | nil => exact fun _ _ => rfl
    | cons c cs ih =>
      intro afterOpen hafter
      obtain ⟨hnext, h⟩ := List.isChain_cons.1 h
      have hkept : (afterOpen && isBlank c) = false := by
        cases afterOpen with
        | true => exact startsBare_cons.1 (hafter rfl)
        | false => rfl
      rw [dropAfterOpen_cons_of_kept hkept, ih h]
      intro hopen d hd
      exact Bool.eq_false_iff.2 fun hblank => hnext d hd ⟨eq_of_beq hopen, hblank⟩
  exact hgeneral false nofun

theorem head?_dropBeforeClose (cs : List Char) : (dropBeforeClose cs).head? =
    if (cs.dropWhile isBlank).head? = some ')' then some ')' else cs.head? := by
  induction cs with
  | nil => rfl
  | cons c cs ih =>
    rw [List.dropWhile_cons]
    cases hblank : isBlank c with
    | true =>
      rw [if_pos rfl]
      by_cases hclose : (cs.dropWhile isBlank).head? = some ')'
      · rw [dropBeforeClose_cons_of_dropped hblank hclose, ih, if_pos hclose, if_pos hclose]
      · rw [dropBeforeClose_cons_of_kept fun h => hclose h.2, if_neg hclose]
        rfl
    | false =>
      rw [dropBeforeClose_cons_of_kept fun h => Bool.false_ne_true (hblank.symm.trans h.1),
        if_neg Bool.false_ne_true, List.head?_cons, List.head?_cons]
      split
      next h => exact h
      next => rfl

/-- What may precede a closing parenthesis whatever it is goes on to hold between neighbours. -/
theorem isChain_dropBeforeClose {r : Char → Char → Prop} (hclose : ∀ c, r c ')') {cs : List Char}
    (h : cs.IsChain r) : (dropBeforeClose cs).IsChain r := by
  induction cs with
  | nil => exact List.isChain_nil
  | cons c cs ih =>
    obtain ⟨hnext, h⟩ := List.isChain_cons.1 h
    rw [dropBeforeClose]
    split
    · exact ih h
    · refine List.isChain_cons.2 ⟨fun d hd => ?_, ih h⟩
      rw [head?_dropBeforeClose] at hd
      split at hd
      · cases hd
        exact hclose c
      · exact hnext d hd

theorem tightBefore_dropBeforeClose (cs : List Char) : TightBefore (dropBeforeClose cs) := by
  induction cs with
  | nil => exact List.isChain_nil
  | cons c cs ih =>
    rw [dropBeforeClose]
    split
    · exact ih
    next hkept =>
      refine List.isChain_cons.2 ⟨?_, ih⟩
      rintro d hd ⟨hblank, rfl⟩
      rw [hblank, Bool.true_and, beq_iff_eq] at hkept
      rw [head?_dropBeforeClose, if_neg hkept] at hd
      have hstarts : StartsBare cs := fun e he => by
        cases he.symm.trans hd
        decide
      exact hkept (hstarts.dropWhile_eq.symm ▸ hd)

theorem dropBeforeClose_eq_self {cs : List Char} (hsingle : SingleBlanks cs) (h : TightBefore cs) :
    dropBeforeClose cs = cs := by
  induction cs with
  | nil => rfl
  | cons c cs ih =>
    obtain ⟨hstarts, hsingle⟩ := singleBlanks_cons.1 hsingle
    obtain ⟨hnext, h⟩ := List.isChain_cons.1 h
    rw [dropBeforeClose_cons_of_kept, ih hsingle h]
    rintro ⟨hblank, hclose⟩
    rw [(hstarts hblank).dropWhile_eq] at hclose
    exact hnext ')' hclose ⟨hblank, rfl⟩

theorem dropAfterOpen_sublist (afterOpen : Bool) (cs : List Char) :
    (dropAfterOpen afterOpen cs).Sublist cs := by
  induction cs generalizing afterOpen with
  | nil => exact List.Sublist.refl []
  | cons c cs ih =>
    rw [dropAfterOpen]
    split
    · exact (ih true).cons c
    · exact (ih _).cons_cons c

theorem dropBeforeClose_sublist (cs : List Char) : (dropBeforeClose cs).Sublist cs := by
  induction cs with
  | nil => exact List.Sublist.refl []
  | cons c cs ih =>
    rw [dropBeforeClose]
    split
    · exact ih.cons c
    · exact ih.cons_cons c

/-- What ends a text without a blank is never dropped. -/
theorem EndsBare.dropAfterOpen {cs : List Char} (h : EndsBare cs) (afterOpen : Bool) :
    EndsBare (dropAfterOpen afterOpen cs) ∧ (dropAfterOpen afterOpen cs = [] → cs = []) := by
  induction cs generalizing afterOpen with
  | nil => exact ⟨h, fun _ => rfl⟩
  | cons c cs ih =>
    obtain ⟨hlast, h⟩ := endsBare_cons.1 h
    rw [Sql.dropAfterOpen]
    split
    next hdropped =>
      have hne : cs ≠ [] := fun hnil => by
        cases (hlast hnil).symm.trans (Bool.and_eq_true_iff.1 hdropped).2
      exact ⟨(ih h true).1, fun hnil => absurd ((ih h true).2 hnil) hne⟩
    next =>
      exact ⟨endsBare_cons.2 ⟨fun hnil => hlast ((ih h _).2 hnil), (ih h _).1⟩,
        fun hnil => absurd hnil (List.cons_ne_nil _ _)⟩

theorem EndsBare.dropBeforeClose {cs : List Char} (h : EndsBare cs) :
    EndsBare (dropBeforeClose cs) := by
  induction cs with
  | nil => exact h
  | cons c cs ih =>
    obtain ⟨hlast, h⟩ := endsBare_cons.1 h
    rw [Sql.dropBeforeClose]
    split
    · exact ih h
    · refine endsBare_cons.2 ⟨fun hnil => hlast ?_, ih h⟩
      exact Classical.not_not.1 fun hne => sparesMarks_dropBeforeClose.ne_nil cs hne hnil

theorem StartsBare.dropBeforeClose {cs : List Char} (h : StartsBare cs) :
    StartsBare (dropBeforeClose cs) := by
  rw [StartsBare, head?_dropBeforeClose]
  split
  · intro c hc
    cases hc
    decide
  · exact h

/-- Texts stay evenly spaced where blanks are dropped beside parentheses. -/
theorem EvenlySpaced.dropAfterOpen {cs : List Char} (h : EvenlySpaced cs) :
    EvenlySpaced (dropAfterOpen false cs) where
  starts := by
    rw [StartsBare, head?_dropAfterOpen_false]
    exact h.starts
  ends := (h.ends.dropAfterOpen false).1
  single := isChain_dropAfterOpen (fun _ hr => absurd hr.1 (by decide)) h.single false
  spaces c hc := h.spaces c ((dropAfterOpen_sublist false cs).subset hc)

theorem EvenlySpaced.dropBeforeClose {cs : List Char} (h : EvenlySpaced cs) :
    EvenlySpaced (dropBeforeClose cs) where
  starts := h.starts.dropBeforeClose
  ends := h.ends.dropBeforeClose
  single := isChain_dropBeforeClose (fun _ hr => absurd hr.2 (by decide)) h.single
  spaces c hc := h.spaces c ((dropBeforeClose_sublist cs).subset hc)

/-! ### Casts and parentheses -/

theorem isCastChar_and_of_isBlank {c : Char} (h : isBlank c = true) (inCast : Bool) :
    (inCast && isCastChar c) = false := by
  rw [isCastChar_of_isBlank h, Bool.and_false]

theorem ne_of_isBlank {c d : Char} (hc : isBlank c = true) (hd : isBlank d = false) : c ≠ d := by
  rintro rfl
  cases hc.symm.trans hd

/-- **Casts are read the same where blanks behind parentheses are dropped.** -/
theorem lowerCasts_dropAfterOpen (cs : List Char) : ∀ prev inCast afterOpen,
    (afterOpen = true → prev ≠ some ':' ∧ inCast = false) →
      lowerCasts prev inCast (dropAfterOpen afterOpen cs) =
        dropAfterOpen afterOpen (lowerCasts prev inCast cs) := by
  induction cs with
  | nil => exact fun _ _ _ _ => rfl
  | cons c cs ih =>
    intro prev inCast afterOpen hafter
    cases hdropped : afterOpen && isBlank c with
    | true =>
      obtain ⟨rfl, hblank⟩ := Bool.and_eq_true_iff.1 hdropped
      obtain ⟨hprev, rfl⟩ := hafter rfl
      rw [dropAfterOpen_cons_of_dropped hdropped,
        lowerCasts_cons_of_ne (isCastChar_and_of_isBlank hblank _) (ne_of_isBlank hblank (by decide)),
        dropAfterOpen_cons_of_dropped hdropped, lowerCasts_of_ne hprev]
      exact ih none false true fun _ => ⟨nofun, rfl⟩
    | false =>
      rw [dropAfterOpen_cons_of_kept hdropped]
      cases hcast : inCast && isCastChar c with
      | true =>
        have hc := (Bool.and_eq_true_iff.1 hcast).2
        have hopen : (c == '(') = false := beq_false_of_ne (ne_of_isCastChar hc (by decide))
        have hopen' : (c.toLower == '(') = false :=
          beq_false_of_ne (ne_of_isCastChar ((isCastChar_toLower c).trans hc) (by decide))
        have hdropped' : (afterOpen && isBlank c.toLower) = false := by
          rw [isBlank_toLower, hdropped]
        rw [lowerCasts_cons_of_cast hcast, lowerCasts_cons_of_cast hcast,
          dropAfterOpen_cons_of_kept hdropped', hopen, hopen', ih (some c) true false nofun]
      | false =>
        by_cases hcolon : c = ':'
        · -- Whether a cast begins depends on what is behind a colon, and nothing is dropped there.
          have hopen : (c == '(') = false := by
            rw [hcolon]
            decide
          rw [lowerCasts_cons_of_not_cast hcast, lowerCasts_cons_of_not_cast hcast,
            dropAfterOpen_cons_of_kept hdropped, hopen, head?_dropAfterOpen_false,
            ih _ _ false nofun]
        · rw [lowerCasts_cons_of_ne hcast hcolon, lowerCasts_cons_of_ne hcast hcolon,
            dropAfterOpen_cons_of_kept hdropped, ih none false _ fun _ => ⟨nofun, rfl⟩]

/-- What stands before a closing parenthesis is followed by no cast, with blanks or without. -/
theorem any_isAlpha_dropBeforeClose (cs : List Char) :
    (dropBeforeClose cs).head?.any Char.isAlpha = cs.head?.any Char.isAlpha := by
  rw [head?_dropBeforeClose]
  split
  next hclose =>
    cases cs with
    | nil => cases hclose
    | cons c cs =>
      cases hblank : isBlank c with
      | true => exact (isAlpha_of_isBlank hblank).symm
      | false =>
        rw [List.dropWhile_cons, hblank, if_neg Bool.false_ne_true] at hclose
        rw [hclose]
  next => rfl

theorem head?_dropWhile_lowerCasts (cs : List Char) : ∀ prev inCast,
    ((lowerCasts prev inCast cs).dropWhile isBlank).head? = some ')' ↔
      (cs.dropWhile isBlank).head? = some ')' := by
  induction cs with
  | nil => exact fun _ _ => Iff.rfl
  | cons c cs ih =>
    intro prev inCast
    cases hcast : inCast && isCastChar c with
    | true =>
      have hc := (Bool.and_eq_true_iff.1 hcast).2
      have hc' := (isCastChar_toLower c).trans hc
      rw [lowerCasts_cons_of_cast hcast, (startsBare_cons.2 (isBlank_of_isCastChar hc)).dropWhile_eq,
        (startsBare_cons.2 (isBlank_of_isCastChar hc')).dropWhile_eq]
      exact iff_of_false (fun he => ne_of_isCastChar hc' (by decide) (Option.some.inj he))
        fun he => ne_of_isCastChar hc (by decide) (Option.some.inj he)
    | false =>
      rw [lowerCasts_cons_of_not_cast hcast, List.dropWhile_cons, List.dropWhile_cons]
      split
      · exact ih _ _
      · rfl

/-- **Casts are read the same where blanks before parentheses are dropped.** -/
theorem lowerCasts_dropBeforeClose (cs : List Char) : ∀ prev inCast,
    lowerCasts prev inCast (dropBeforeClose cs) = dropBeforeClose (lowerCasts prev inCast cs) := by
  induction cs with
  | nil => exact fun _ _ => rfl
  | cons c cs ih =>
    intro prev inCast
    by_cases hdropped : isBlank c = true ∧ (cs.dropWhile isBlank).head? = some ')'
    · obtain ⟨hblank, hclose⟩ := hdropped
      have hhead : (dropBeforeClose cs).head? = some ')' := by
        rw [head?_dropBeforeClose, if_pos hclose]
      rw [dropBeforeClose_cons_of_dropped hblank hclose,
        lowerCasts_of_head? (by decide) (by decide) hhead,
        lowerCasts_cons_of_ne (isCastChar_and_of_isBlank hblank _) (ne_of_isBlank hblank (by decide)),
        dropBeforeClose_cons_of_dropped hblank ((head?_dropWhile_lowerCasts _ _ _).2 hclose), ih]
    · rw [dropBeforeClose_cons_of_kept hdropped]
      cases hcast : inCast && isCastChar c with
      | true =>
        have hc' := (isCastChar_toLower c).trans (Bool.and_eq_true_iff.1 hcast).2
        rw [lowerCasts_cons_of_cast hcast, lowerCasts_cons_of_cast hcast, ih,
          dropBeforeClose_cons_of_kept]
        rintro ⟨hblank, -⟩
        cases hblank.symm.trans (isBlank_of_isCastChar hc')
      | false =>
        rw [lowerCasts_cons_of_not_cast hcast, lowerCasts_cons_of_not_cast hcast,
          any_isAlpha_dropBeforeClose, ih, dropBeforeClose_cons_of_kept]
        rwa [head?_dropWhile_lowerCasts]

/-! ### The normal form of expressions -/

/-- A text as the normal form of expressions has it. -/
structure IsExpressionForm (cs : List Char) : Prop where
  spaced : EvenlySpaced cs
  behind : TightBehind cs
  before : TightBefore cs
  /-- The casts are in lower case. -/
  casts : lowerCasts none false cs = cs

theorem isExpressionForm_expressionForm (cs : List Char) :
    IsExpressionForm (expressionForm (stripWhile isBlank cs)) := by
  have hspaced : EvenlySpaced (lowerCasts none false (collapse (stripWhile isBlank cs))) :=
    (relettered_lowerCasts none false _).evenlySpaced (evenlySpaced_collapse cs)
  show IsExpressionForm (dropBeforeClose (dropAfterOpen false (lowerCasts none false
    (collapse (stripWhile isBlank cs)))))
  refine ⟨hspaced.dropAfterOpen.dropBeforeClose, ?_, tightBefore_dropBeforeClose _, ?_⟩
  · exact isChain_dropBeforeClose (fun _ hr => absurd hr.2 (by decide))
      (tightBehind_dropAfterOpen false _)
  · rw [lowerCasts_dropBeforeClose, lowerCasts_dropAfterOpen _ _ _ _ (fun h => absurd h Bool.false_ne_true),
      lowerCasts_lowerCasts Iff.rfl]

/-- **The texts in normal form are those that normalizing leaves as they are.** -/
theorem normalizeExpression_eq_self_iff {s : String} :
    normalizeExpression s = s ↔ IsExpressionForm s.toList := by
  constructor
  · intro h
    rw [← h, normalizeExpression_eq, String.toList_ofList]
    exact isExpressionForm_expressionForm s.toList
  · intro h
    have hspace : normalizeSpace s = s := normalizeSpace_eq_self_iff.2 h.spaced
    rw [normalizeExpression, hspace, h.casts, dropAfterOpen_eq_self h.behind,
      dropBeforeClose_eq_self h.spaced.single h.before, String.ofList_toList]

end SchemaPlan.Sql
