import Mathlib.Data.List.Forall2
import SchemaPlan.Model.Basic
import SchemaPlan.Sql.TypeName

/-!
# Signatures of functions

A signature joins the types of the arguments with commas, each in lower case but otherwise as it is
written.  Types may have commas themselves, so a signature cannot be taken apart in general.  But
two spellings of one type have the same number of commas (`commaCount_lowercase_of_same`), since
neither lower case nor the normal form of a type adds or loses any; and of texts with the same
number of commas each, the joined text gives all back (`intercalate_inj_of_commaCount`).

So functions whose arguments have the same types (`Routine.Alike`) have the same signature exactly if
their types are written the same way, up to case (`Routine.Alike.signature_eq_iff`).
-/

namespace SchemaPlan

/-! ### Commas -/

section Commas

open Text

/-- How many commas there are in a text. -/
def commaCount (cs : List Char) : Nat :=
  cs.count ','

@[simp] theorem commaCount_append (as bs : List Char) :
    commaCount (as ++ bs) = commaCount as + commaCount bs :=
  List.count_append

theorem commaCount_cons (c : Char) (cs : List Char) :
    commaCount (c :: cs) = commaCount [c] + commaCount cs :=
  commaCount_append [c] cs

theorem commaCount_singleton_of_ne {c : Char} (h : c ≠ ',') : commaCount [c] = 0 := by
  simp [commaCount, h]

theorem commaCount_singleton_of_toNat {c : Char} (h : c.toNat ≠ 0x2C) : commaCount [c] = 0 :=
  commaCount_singleton_of_ne fun hc => h (congrArg Char.toNat hc)

theorem commaCount_singleton_of_isBlank {c : Char} (h : isBlank c = true) : commaCount [c] = 0 :=
  commaCount_singleton_of_ne fun hc => absurd h (hc ▸ by decide)

theorem commaCount_ofNat {n : Nat} (h : n ≠ 0x2C) : commaCount [Char.ofNat n] = 0 := by
  refine commaCount_singleton_of_toNat ?_
  by_cases hn : n.isValidChar
  · have he : Char.ofNat n = Char.ofNatAux n hn := dif_pos hn
    rw [he]
    exact h
  · have he : Char.ofNat n = Char.ofNat 0 := dif_neg hn
    rw [he]
    decide

/-! ### Lower case -/

/-- No letter becomes a comma. -/
theorem target?_ne {r : CaseRun} (hr : r ∈ lowercaseRuns) {m n : Nat} (h : r.target? m = some n) :
    n ≠ 0x2C := by
  have hall : ∀ r ∈ lowercaseRuns, 0x2C < r.target := by decide +kernel
  have htarget := hall r hr
  simp only [CaseRun.target?, Option.ite_none_right_eq_some, Option.some.injEq] at h
  omega

theorem commaCount_lowercaseLetter (c : Char) :
    commaCount (lowercaseLetter c) = commaCount [c] := by
  by_cases hsmall : c.toNat < 0x80
  · have hall : ∀ n < 0x80,
        commaCount (lowercaseLetter (Char.ofNat n)) = commaCount [Char.ofNat n] := by
      decide +kernel
    have hc := hall c.toNat hsmall
    rwa [Char.ofNat_toNat] at hc
  · rw [commaCount_singleton_of_toNat (by omega), lowercaseLetter, if_neg hsmall]
    split
    · decide
    · split
      next n hn =>
        obtain ⟨r, hr, hn⟩ := List.exists_of_findSome?_eq_some hn
        exact commaCount_ofNat (target?_ne hr hn)
      · exact commaCount_singleton_of_toNat (by omega)

theorem commaCount_lowercaseFrom (before cs : List Char) :
    commaCount (lowercaseFrom before cs) = commaCount cs := by
  induction cs generalizing before with
  | nil => rfl
  | cons c cs ih =>
    rw [lowercaseFrom, commaCount_append, commaCount_cons, ih (c :: before),
      Nat.add_right_cancel_iff]
    split
    next hsigma =>
      have hc : c.toNat = 0x3A3 := beq_iff_eq.1 hsigma
      rw [commaCount_singleton_of_toNat (c := c) (by omega)]
      split <;> exact commaCount_ofNat (by decide)
    next => exact commaCount_lowercaseLetter c

theorem commaCount_lowercase (s : String) :
    commaCount (lowercase s).toList = commaCount s.toList := by
  rw [lowercase, String.toList_ofList, commaCount_lowercaseFrom]

/-! ### Names of types -/

theorem commaCount_dropWhile (cs : List Char) :
    commaCount (cs.dropWhile isBlank) = commaCount cs := by
  induction cs with
  | nil => rfl
  | cons c cs ih =>
    rw [List.dropWhile_cons]
    split
    next hblank => rw [ih, commaCount_cons, commaCount_singleton_of_isBlank hblank, Nat.zero_add]
    next => rfl

theorem commaCount_reverse (cs : List Char) : commaCount cs.reverse = commaCount cs :=
  List.count_reverse

theorem commaCount_dropEndWhile (cs : List Char) :
    commaCount (dropEndWhile isBlank cs) = commaCount cs := by
  rw [dropEndWhile, commaCount_reverse, commaCount_dropWhile, commaCount_reverse]

theorem commaCount_collapse (cs : List Char) : commaCount (Sql.collapse cs) = commaCount cs := by
  induction cs with
  | nil => rfl
  | cons c cs ih =>
    rw [Sql.collapse, commaCount_cons c]
    split
    next hblank =>
      rw [commaCount_singleton_of_isBlank hblank, Nat.zero_add]
      split
      · exact ih
      · rw [commaCount_cons, ih, commaCount_singleton_of_isBlank (by decide), Nat.zero_add]
    next => rw [commaCount_cons, ih]

theorem commaCount_normalizeSpace (s : String) :
    commaCount (Sql.normalizeSpace s).toList = commaCount s.toList := by
  rw [Sql.normalizeSpace, String.toList_ofList, commaCount_collapse, stripWhile,
    commaCount_dropEndWhile, commaCount_dropWhile]

theorem commaCount_canonical (s : String) :
    commaCount (Sql.TypeName.canonical s).toList = commaCount s.toList := by
  unfold Sql.TypeName.canonical
  split <;> simp [commaCount]

theorem commaCount_normalize (s : String) :
    commaCount (Sql.TypeName.normalize s).toList = commaCount s.toList := by
  have hspaces : ∀ cs : List Char, commaCount (cs.filter (· != ' ')) = commaCount cs := fun cs =>
    List.count_filter (by decide)
  have hbase : ∀ (p : Bool) (cs : List Char),
      commaCount (if p then cs else dropEndWhile isBlank cs) = commaCount cs := by
    intro p cs
    split
    · rfl
    · exact commaCount_dropEndWhile cs
  rw [Sql.TypeName.normalize, String.toList_append, commaCount_append, commaCount_canonical,
    String.toList_ofList, String.toList_ofList, hspaces, hbase, ← commaCount_append,
    List.takeWhile_append_dropWhile, commaCount_lowercase, commaCount_normalizeSpace]

/-- **Two spellings of a type have the same number of commas.** -/
theorem commaCount_lowercase_of_same {a b : String} (h : Sql.TypeName.same a b = true) :
    commaCount (lowercase a).toList = commaCount (lowercase b).toList := by
  rw [Sql.TypeName.same, beq_iff_eq] at h
  rw [commaCount_lowercase, commaCount_lowercase, ← commaCount_normalize, h, commaCount_normalize]

/-! ### Joined texts -/

/-- Texts with the same number of commas each are told apart although a comma and more follow. -/
theorem append_inj_of_commaCount {a b x y : List Char} (hcount : commaCount a = commaCount b)
    (h : a ++ ',' :: x = b ++ ',' :: y) : a = b ∧ x = y := by
  -- What one text has beyond the other begins with the comma behind the other.
  have hnil : ∀ {a b middle x y : List Char}, commaCount a = commaCount b → b = a ++ middle →
      ',' :: x = middle ++ ',' :: y → middle = [] := by
    intro a b middle x y hcount hb hx
    cases middle with
    | nil => rfl
    | cons c middle =>
      obtain ⟨rfl, -⟩ := List.cons.inj hx
      have hcomma : commaCount [','] = 1 := rfl
      rw [hb, commaCount_append, commaCount_cons, hcomma] at hcount
      omega
  rcases List.append_eq_append_iff.1 h with ⟨middle, hb, hx⟩ | ⟨middle, ha, hy⟩
  · obtain rfl := hnil hcount hb hx
    exact ⟨by simpa using hb.symm, by simpa using hx⟩
  · obtain rfl := hnil hcount.symm ha hy
    exact ⟨by simpa using ha, by simpa using hy.symm⟩

/-- **Texts are read off as they were joined** if it is known how many commas each has. -/
theorem intercalate_inj_of_commaCount {as bs : List String}
    (hcount : List.Forall₂ (fun a b => commaCount a.toList = commaCount b.toList) as bs)
    (h : String.intercalate ", " as = String.intercalate ", " bs) : as = bs := by
  induction hcount with
  | nil => rfl
  | cons hab hrest ih =>
    cases hrest with
    | nil => simpa using h
    | cons hcd hmore =>
      have hchars := congrArg String.toList h
      simp only [String.intercalate_cons_cons, String.toList_append] at hchars
      obtain ⟨hhead, htail⟩ := append_inj_of_commaCount hab (by simpa using hchars)
      have hjoined := ih (String.toList_inj.1 (by simpa using htail))
      rw [String.toList_inj.1 hhead, hjoined]

end Commas

/-! ### Signatures -/

namespace Routine

variable {f g : Routine}

/-- The types of the arguments as a signature has them: in lower case. -/
def spelling (f : Routine) : List String :=
  f.arguments.map fun a => Text.lowercase a.dataType

/-- Functions of one name whose arguments have the same types one by one. -/
structure Alike (f g : Routine) : Prop where
  name : f.name = g.name
  types : List.Forall₂ (fun a b => Sql.TypeName.same a.dataType b.dataType = true)
    f.arguments g.arguments

theorem argumentTypes_eq (f : Routine) : f.argumentTypes = String.intercalate ", " f.spelling :=
  rfl

/-- Functions of one name have the same signature exactly if their argument types read the same. -/
theorem signature_eq_iff (h : f.name = g.name) :
    f.signature = g.signature ↔ f.argumentTypes = g.argumentTypes := by
  rw [signature, signature, h]
  constructor
  · intro he
    have he := congrArg String.toList he
    simp only [String.toList_append] at he
    exact String.toList_inj.1 (List.append_cancel_left (List.append_cancel_right he))
  · intro he
    rw [he]

/-- **Functions that are alike have the same signature exactly if they are spelled alike.** -/
theorem Alike.signature_eq_iff (h : f.Alike g) :
    f.signature = g.signature ↔ f.spelling = g.spelling := by
  rw [Routine.signature_eq_iff h.name, argumentTypes_eq, argumentTypes_eq]
  refine ⟨intercalate_inj_of_commaCount ?_, congrArg _⟩
  rw [spelling, spelling, List.forall₂_map_left_iff, List.forall₂_map_right_iff]
  exact h.types.imp fun _ _ hsame => commaCount_lowercase_of_same hsame

end Routine

end SchemaPlan
