import Mathlib.Data.List.TakeWhile
import SchemaPlan.Proofs.Marks

/-!
# Strings in a piece of SQL

`pieces` reads off a text its strings, as they are written between their quotes, and the comments that
end with their lines.  Quoted names and other comments are passed over; a text between dollar signs is
read like any other.

A normal form changes what strings say, but not where there are strings (`SparesMarks.pieces_eq`): its
strings are the normal forms of the strings.  There is one exception.  A comment that ends with its line
has no end in a normal form, where there are no lines, and what follows it is lost to it.
-/

namespace SchemaPlan.Sql

open SchemaPlan.Text

/-! ### Reading strings and comments -/

/-- What stands before a closing quote, as it is written, and what follows the quote.  A quote that is
written twice does not close, and with `escapes` none does behind a backslash; `held` says that the
first character is kept from closing. -/
def readText (q : Char) (escapes : Bool) : Bool → List Char → Option (List Char × List Char)
  | _, [] => none
  | held, c :: cs =>
    if c = q && !held then
      if cs.head? = some q then (readText q escapes true cs).map (Prod.map (c :: ·) id)
      else some ([], cs)
    else (readText q escapes (escapes && c == '\\' && !held) cs).map (Prod.map (c :: ·) id)

/-- A piece of a text that is told apart. -/
inductive Piece where
  | string (content : List Char)
  /-- A comment that ends with its line. -/
  | lineComment
deriving DecidableEq

/-- What a piece says, if it is a string. -/
def Piece.string? : Piece → Option (List Char)
  | .string content => some content
  | .lineComment => none

/-- What a text begins with, what stands before the rest then, and the rest, unless it begins with
something that has no end. -/
def readPiece (before : Before) (c : Char) (cs : List Char) :
    Option (Option Piece × Before × List Char) :=
  if c = '\x27' then
    (readText c (before == .letter) false cs).map fun (content, rest) =>
      (some (.string content), .gap, rest)
  else if c = '\x22' then (readText c false false cs).map fun (_, rest) => (none, .gap, rest)
  else if c = '-' ∧ cs.head? = some '-' then
    some (some .lineComment, .gap, cs.dropWhile fun d => d != '\n' && d != '\r')
  else if c = '/' ∧ cs.head? = some '*' then
    (skipComment 0 (cs.drop 1)).map fun rest => (none, .gap, rest)
  else some (none, before.next c, cs)

theorem length_of_readText {q : Char} {escapes : Bool} {cs : List Char} :
    ∀ {held : Bool} {read : List Char × List Char},
      readText q escapes held cs = some read → read.2.length ≤ cs.length := by
  induction cs with
  | nil => exact nofun
  | cons c cs ih =>
    intro held read h
    have hrest : ∀ {held : Bool},
        (readText q escapes held cs).map (Prod.map (c :: ·) id) = some read →
          read.2.length ≤ (c :: cs).length := by
      intro held h
      obtain ⟨inner, hread, rfl⟩ := Option.map_eq_some_iff.1 h
      have hlength : inner.2.length ≤ cs.length := ih hread
      exact Nat.le_succ_of_le hlength
    rw [readText] at h
    split at h
    · split at h
      · exact hrest h
      · cases h
        exact Nat.le_succ _
    · exact hrest h

theorem length_of_readPiece {before next : Before} {c : Char} {cs rest : List Char}
    {piece : Option Piece} (h : readPiece before c cs = some (piece, next, rest)) :
    rest.length ≤ cs.length := by
  unfold readPiece at h
  split at h
  · obtain ⟨_, hread, he⟩ := Option.map_eq_some_iff.1 h
    cases he
    exact length_of_readText hread
  split at h
  · obtain ⟨_, hread, he⟩ := Option.map_eq_some_iff.1 h
    cases he
    exact length_of_readText hread
  split at h
  · cases h
    exact (List.dropWhile_sublist _).length_le
  split at h
  · obtain ⟨_, hread, he⟩ := Option.map_eq_some_iff.1 h
    cases he
    exact Nat.le_trans (length_of_skipComment hread) (by simp)
  · cases h
    exact Nat.le_refl _

/-- The strings of a text and its comments that end with their lines, in their order. -/
def pieces (before : Before) (cs : List Char) : List Piece :=
  match cs with
  | [] => []
  | c :: cs =>
    match _h : readPiece before c cs with
    | none => []
    | some (piece, next, rest) => piece.toList ++ pieces next rest
termination_by cs.length
decreasing_by exact Nat.lt_succ_of_le (length_of_readPiece _h)

theorem pieces_nil (before : Before) : pieces before [] = [] := by
  rw [pieces]

theorem pieces_cons (before : Before) (c : Char) (cs : List Char) :
    pieces before (c :: cs) = (readPiece before c cs).elim [] fun (piece, next, rest) =>
      piece.toList ++ pieces next rest := by
  rw [pieces]
  split
  next h => rw [h]; rfl
  next h => rw [h]; rfl

theorem pieces_append {before : Before} {x : List Char} (hx : MarkFree x) (y : List Char) :
    pieces before (x ++ y) = pieces (before.after x) y := by
  induction x generalizing before with
  | nil => rfl
  | cons c x ih =>
    obtain ⟨hc, hx⟩ := markFree_cons.1 hx
    have hread : readPiece before c (x ++ y) = some (none, before.next c, x ++ y) := by
      have hne := fun m hm => Ne.symm (ne_of_isMark (m := m) hm hc)
      simp [readPiece, hne _ (show isMark '\x27' = true by decide),
        hne _ (show isMark '\x22' = true by decide), hne _ (show isMark '-' = true by decide),
        hne _ (show isMark '/' = true by decide)]
    rw [List.cons_append, pieces_cons, hread]
    exact ih hx

theorem pieces_of_markFree {before : Before} {x : List Char} (hx : MarkFree x) :
    pieces before x = [] := by
  rw [← List.append_nil x, pieces_append hx, pieces_nil]

/-! ### Strings and comments in a normal form -/

section Spared

variable {f : List Char → List Char} (hf : SparesMarks f)

include hf

theorem SparesMarks.cons {m : Char} (hm : isMark m = true) (y : List Char) :
    f (m :: y) = m :: f y := by
  have h := hf.mark [] m y hm
  rwa [hf.nil] at h

/-- A text begins with a mark exactly if its normal form does. -/
theorem SparesMarks.head?_eq_some_iff {m : Char} (hm : isMark m = true) (cs : List Char) :
    (f cs).head? = some m ↔ cs.head? = some m := by
  have hlead : ∀ {x : List Char} (y : List Char), MarkFree x → x ≠ [] → (x ++ y).head? ≠ some m := by
    intro x y hx hne
    rw [List.head?_append, List.head?_eq_some_head hne]
    exact fun hhead => hx.head?_ne hm ((List.head?_eq_some_head hne).trans hhead)
  rcases markFree_or_exists cs with hx | ⟨x, m', y, hx, hm', rfl⟩
  · exact iff_of_false ((hf.free cs hx).head?_ne hm) (hx.head?_ne hm)
  · rw [hf.mark x m' y hm']
    by_cases hne : x = []
    · rw [hne, hf.nil]
      rfl
    · exact iff_of_false (hlead _ (hf.free x hx) (hf.ne_nil x hne)) (hlead _ hx hne)

theorem SparesMarks.tail_eq {m : Char} (hm : isMark m = true) {cs : List Char}
    (h : cs.head? = some m) : (f cs).tail = f cs.tail := by
  obtain ⟨cs, rfl⟩ := List.head?_eq_some_iff.1 h
  rw [hf.cons hm]
  rfl

end Spared

section Texts

variable {q : Char} {escapes : Bool}

theorem readText_append (hq : isMark q = true) {x : List Char} (hx : MarkFree x) (y : List Char) :
    ∀ {held : Bool}, (x = [] → held = false) → readText q escapes held (x ++ y) =
      (readText q escapes false y).map (Prod.map (x ++ ·) id) := by
  induction x with
  | nil =>
    intro held h
    rw [h rfl, List.nil_append]
    cases readText q escapes false y <;> rfl
  | cons c x ih =>
    intro held _
    obtain ⟨hc, hx⟩ := markFree_cons.1 hx
    have hquote : c ≠ q := (ne_of_isMark hq hc).symm
    have hescape : (c == '\\') = false := beq_false_of_ne (ne_of_isMark (by decide) hc).symm
    rw [List.cons_append, readText, hescape, decide_eq_false hquote, Bool.and_false, Bool.false_and,
      if_neg Bool.false_ne_true, ih hx fun _ => rfl, Option.map_map]
    rfl

theorem readText_of_markFree (hq : isMark q = true) {x : List Char} (hx : MarkFree x)
    (held : Bool) : readText q escapes held x = none := by
  by_cases hne : x = []
  · rw [hne, readText]
  · rw [← List.append_nil x, readText_append hq hx [] fun he => absurd he hne]
    rfl

/-- What is read before a quote begins with the character that it was read from. -/
theorem head?_of_readText {held : Bool} {c : Char} {cs : List Char} {read : List Char × List Char}
    (h : readText q escapes held (c :: cs) = some read) : read.1 = [] ∨ read.1.head? = some c := by
  have hrest : ∀ {o : Option (List Char × List Char)},
      o.map (Prod.map (c :: ·) id) = some read → read.1 = [] ∨ read.1.head? = some c := by
    intro o h
    obtain ⟨_, -, rfl⟩ := Option.map_eq_some_iff.1 h
    exact .inr rfl
  rw [readText] at h
  split at h
  · split at h
    · exact hrest h
    · cases h
      exact .inl rfl
  · exact hrest h

/-- **A string in a normal form** is the normal form of the string. -/
theorem SparesMarks.readText_eq {f : List Char → List Char} (hf : SparesMarks f)
    (hq : isMark q = true) : ∀ (cs : List Char) (held : Bool),
      readText q escapes held (f cs) = (readText q escapes held cs).map (Prod.map f f) := by
  refine mark_induction (fun x hx held => ?_) fun x m y hx hm ih held => ?_
  · rw [readText_of_markFree hq hx, readText_of_markFree hq (hf.free x hx)]
    rfl
  · have hcons : ∀ o : Option (List Char × List Char), (o.map (Prod.map f f)).map
        (Prod.map (m :: ·) id) = (o.map (Prod.map (m :: ·) id)).map (Prod.map f f) := by
      rintro (_ | ⟨content, rest⟩)
      · rfl
      · exact congrArg (fun content => some (content, f rest)) (hf.cons hm content).symm
    have hmark : ∀ held, readText q escapes held (m :: f y) =
        (readText q escapes held (m :: y)).map (Prod.map f f) := by
      intro held
      rw [readText, readText, ih, ih, hcons, hcons]
      by_cases hquote : (m = q && !held) = true
      · have hhead : (f y).head? = some q ↔ y.head? = some q := hf.head?_eq_some_iff hq y
        rw [if_pos hquote, if_pos hquote]
        by_cases hdouble : y.head? = some q
        · rw [if_pos hdouble, if_pos (hhead.2 hdouble)]
        · rw [if_neg hdouble, if_neg (mt hhead.1 hdouble), Option.map_some, Prod.map, hf.nil]
      · rw [if_neg hquote, if_neg hquote]
    rw [hf.mark x m y hm]
    by_cases hne : x = []
    · rw [hne, hf.nil]
      exact hmark held
    · rw [readText_append hq (hf.free x hx) _ fun he => absurd he (hf.ne_nil x hne), hmark,
        readText_append hq hx _ fun he => absurd he hne]
      cases hread : readText q escapes false (m :: y) with
      | none => rfl
      | some read =>
        have happend : f (x ++ read.1) = f x ++ f read.1 := by
          rcases head?_of_readText hread with hnil | hhead
          · rw [hnil, hf.nil, List.append_nil, List.append_nil]
          · obtain ⟨z, hz⟩ := List.head?_eq_some_iff.1 hhead
            rw [hz, hf.mark x m z hm, hf.cons hm]
        exact congrArg (fun content => some (content, f read.2)) happend.symm

end Texts

/-! ### Comments -/

theorem skipComment_cons (depth : Nat) (c : Char) (cs : List Char) : skipComment depth (c :: cs) =
    if c = '/' ∧ cs.head? = some '*' then skipComment (depth + 1) cs.tail
    else if c = '*' ∧ cs.head? = some '/' then
      match depth with
      | 0 => some cs.tail
      | depth + 1 => skipComment depth cs.tail
    else skipComment depth cs := by
  cases cs with
  | nil => simp [skipComment]
  | cons d cs =>
    by_cases hopen : c = '/' ∧ d = '*'
    · obtain ⟨rfl, rfl⟩ := hopen
      rfl
    · by_cases hclose : c = '*' ∧ d = '/'
      · obtain ⟨rfl, rfl⟩ := hclose
        cases depth <;> rfl
      · rw [skipComment.eq_def]
        simp only [List.head?_cons, Option.some.injEq, hopen, hclose, if_false]
        split <;> simp_all

theorem skipComment_append {x : List Char} (hx : MarkFree x) (depth : Nat) (y : List Char) :
    skipComment depth (x ++ y) = skipComment depth y := by
  induction x with
  | nil => rfl
  | cons c x ih =>
    obtain ⟨hc, hx⟩ := markFree_cons.1 hx
    have hslash : c ≠ '/' := (ne_of_isMark (by decide) hc).symm
    have hstar : c ≠ '*' := (ne_of_isMark (by decide) hc).symm
    rw [List.cons_append, skipComment_cons, if_neg fun h => hslash h.1, if_neg fun h => hstar h.1,
      ih hx]

theorem skipComment_of_markFree {x : List Char} (hx : MarkFree x) (depth : Nat) :
    skipComment depth x = none := by
  rw [← List.append_nil x, skipComment_append hx, skipComment]

/-- **What follows a comment in a normal form** is the normal form of what follows it. -/
theorem SparesMarks.skipComment_eq {f : List Char → List Char} (hf : SparesMarks f) :
    ∀ (cs : List Char) (depth : Nat), skipComment depth (f cs) = (skipComment depth cs).map f := by
  intro cs
  induction hn : cs.length using Nat.strongRecOn generalizing cs with
  | ind n ih =>
    intro depth
    subst hn
    rcases markFree_or_exists cs with hx | ⟨x, m, y, hx, hm, rfl⟩
    · rw [skipComment_of_markFree hx, skipComment_of_markFree (hf.free cs hx)]
      rfl
    · have hy : ∀ {z : List Char}, z.length ≤ y.length → ∀ depth,
          skipComment depth (f z) = (skipComment depth z).map f := by
        intro z hz depth
        refine ih z.length ?_ z rfl depth
        simp only [List.length_append, List.length_cons]
        omega
      have htail : y.tail.length ≤ y.length := by simp
      have hstar : isMark '*' = true := by decide
      have hslash : isMark '/' = true := by decide
      rw [hf.mark x m y hm, skipComment_append hx, skipComment_append (hf.free x hx),
        skipComment_cons, skipComment_cons]
      simp only [hf.head?_eq_some_iff hstar, hf.head?_eq_some_iff hslash]
      split
      next hopen => rw [hf.tail_eq hstar hopen.2, hy htail]
      next =>
        split
        next hclose =>
          rw [hf.tail_eq hslash hclose.2]
          cases depth with
          | zero => rfl
          | succ depth => exact hy htail depth
        next => exact hy (Nat.le_refl _) depth

/-! ### Pieces of a normal form -/

/-- A piece with its content in a normal form. -/
def Piece.map (f : List Char → List Char) : Piece → Piece
  | .string content => .string (f content)
  | .lineComment => .lineComment

theorem SparesMarks.readPiece_eq {f : List Char → List Char} (hf : SparesMarks f) {m : Char}
    {y : List Char} (hm : isMark m = true) (before : Before)
    (hline : ¬(m = '-' ∧ y.head? = some '-')) :
    readPiece before m (f y) = (readPiece before m y).map fun (piece, next, rest) =>
      (piece.map (Piece.map f), next, f rest) := by
  have hstar : isMark '*' = true := by decide
  have hdash : isMark '-' = true := by decide
  unfold readPiece
  simp only [hf.head?_eq_some_iff hstar, hf.head?_eq_some_iff hdash, hf.readText_eq hm, if_neg hline]
  split
  · simp only [Option.map_map]
    rfl
  split
  · simp only [Option.map_map]
    rfl
  split
  next hopen =>
    rw [List.drop_one, List.drop_one, hf.tail_eq hstar hopen.2, hf.skipComment_eq]
    simp only [Option.map_map]
    rfl
  next => rfl

/-- **The strings of a normal form** are the normal forms of the strings, if no comment ends with its
line. -/
theorem SparesMarks.pieces_eq {f : List Char → List Char} (hf : SparesMarks f) :
    ∀ (cs : List Char) (before : Before), .lineComment ∉ pieces before cs →
      pieces before (f cs) = (pieces before cs).map (Piece.map f) := by
  intro cs
  induction hn : cs.length using Nat.strongRecOn generalizing cs with
  | ind n ih =>
    intro before hline
    subst hn
    rcases markFree_or_exists cs with hx | ⟨x, m, y, hx, hm, rfl⟩
    · rw [pieces_of_markFree hx, pieces_of_markFree (hf.free cs hx)]
      rfl
    · rw [pieces_append hx, pieces_cons] at hline
      rw [hf.mark x m y hm, pieces_append hx, pieces_append (hf.free x hx), hf.after, pieces_cons,
        pieces_cons]
      have hcomment : ¬(m = '-' ∧ y.head? = some '-') := by
        rintro ⟨rfl, hhead⟩
        exact hline (by simp [readPiece, hhead])
      rw [hf.readPiece_eq hm _ hcomment]
      cases hread : readPiece (before.after x) m y with
      | none => rfl
      | some read =>
        obtain ⟨piece, next, rest⟩ := read
        rw [hread, Option.elim_some, List.mem_append, not_or] at hline
        have hlength : rest.length < (x ++ m :: y).length := by
          have := length_of_readPiece hread
          simp only [List.length_append, List.length_cons]
          omega
        have hrest := ih rest.length hlength rest rfl next hline.2
        simp only [Option.map_some, Option.elim_some, List.map_append, hrest]
        cases piece <;> rfl

/-! ### Ends without marks -/

section Ends

variable {w : List Char} (hw : MarkFree w)

include hw

theorem MarkFree.head?_append_iff {m : Char} (hm : isMark m = true) (cs : List Char) :
    (cs ++ w).head? = some m ↔ cs.head? = some m := by
  cases cs with
  | nil => exact iff_of_false (hw.head?_ne hm) nofun
  | cons => rfl

theorem MarkFree.readText_append {q : Char} {escapes : Bool} (hq : isMark q = true)
    (cs : List Char) : ∀ held : Bool, readText q escapes held (cs ++ w) =
      (readText q escapes held cs).map (Prod.map id (· ++ w)) := by
  induction cs with
  | nil => exact fun held => readText_of_markFree hq hw held
  | cons c cs ih =>
    intro held
    rw [List.cons_append, readText, readText]
    simp only [hw.head?_append_iff hq, ih, Option.map_map]
    split
    · split
      · rw [Option.map_map]
        rfl
      · rfl
    · rw [Option.map_map]
      rfl

theorem MarkFree.skipComment_append (cs : List Char) : ∀ depth : Nat,
    skipComment depth (cs ++ w) = (skipComment depth cs).map (· ++ w) := by
  induction hn : cs.length using Nat.strongRecOn generalizing cs with
  | ind n ih =>
    intro depth
    subst hn
    cases cs with
    | nil => exact skipComment_of_markFree hw depth
    | cons c cs =>
      have htail : ∀ {m : Char}, cs.head? = some m → (cs ++ w).tail = cs.tail ++ w := by
        intro m hm
        obtain ⟨cs, rfl⟩ := List.head?_eq_some_iff.1 hm
        rfl
      have hlength : cs.tail.length < (c :: cs).length := by
        rw [List.length_tail, List.length_cons]
        omega
      rw [List.cons_append, skipComment_cons, skipComment_cons]
      simp only [hw.head?_append_iff (show isMark '*' = true by decide),
        hw.head?_append_iff (show isMark '/' = true by decide)]
      split
      next hopen => rw [htail hopen.2, ih _ hlength _ rfl]
      next =>
        split
        next hclose =>
          rw [htail hclose.2]
          cases depth with
          | zero => rfl
          | succ depth => exact ih _ hlength _ rfl depth
        next => exact ih _ (Nat.lt_succ_self _) _ rfl depth

/-- What a text begins with is the same if something without marks is added at its end. -/
theorem MarkFree.readPiece_append (before : Before) (c : Char) (cs : List Char) :
    ∃ w', MarkFree w' ∧ readPiece before c (cs ++ w) =
      (readPiece before c cs).map (Prod.map id (Prod.map id (· ++ w'))) := by
  unfold readPiece
  simp only [hw.head?_append_iff (show isMark '*' = true by decide),
    hw.head?_append_iff (show isMark '-' = true by decide)]
  split
  next hc =>
    refine ⟨w, hw, ?_⟩
    rw [hw.readText_append (hc ▸ by decide), Option.map_map, Option.map_map]
    rfl
  split
  next hc =>
    refine ⟨w, hw, ?_⟩
    rw [hw.readText_append (hc ▸ by decide), Option.map_map, Option.map_map]
    rfl
  split
  next =>
    rw [List.dropWhile_append]
    split
    next hnil =>
      have hsub := List.dropWhile_sublist (l := w) fun d => d != '\n' && d != '\r'
      refine ⟨_, fun c hc => hw c (hsub.subset hc), ?_⟩
      rw [Option.map_some, List.isEmpty_iff.1 hnil]
      rfl
    next => exact ⟨w, hw, rfl⟩
  split
  next hopen =>
    refine ⟨w, hw, ?_⟩
    obtain ⟨cs, rfl⟩ := List.head?_eq_some_iff.1 hopen.2
    simp only [List.cons_append, List.drop_one, List.tail_cons, hw.skipComment_append,
      Option.map_map]
    rfl
  next => exact ⟨w, hw, rfl⟩

end Ends

/-- **What is added at the end of a text is no piece**, if there are no marks in it. -/
theorem pieces_append_markFree (cs : List Char) : ∀ {w : List Char}, MarkFree w →
    ∀ before : Before, pieces before (cs ++ w) = pieces before cs := by
  induction hn : cs.length using Nat.strongRecOn generalizing cs with
  | ind n ih =>
    intro w hw before
    subst hn
    cases cs with
    | nil => rw [List.nil_append, pieces_of_markFree hw, pieces_nil]
    | cons c cs =>
      obtain ⟨w', hw', hread⟩ := hw.readPiece_append before c cs
      rw [List.cons_append, pieces_cons, pieces_cons, hread]
      cases hpiece : readPiece before c cs with
      | none => rfl
      | some read =>
        obtain ⟨piece, next, rest⟩ := read
        have hlength : rest.length < (c :: cs).length :=
          Nat.lt_succ_of_le (length_of_readPiece hpiece)
        exact congrArg (piece.toList ++ ·) (ih rest.length hlength rest rfl hw' next)

theorem after_of_all_isBlank {w : List Char} (h : ∀ c ∈ w, isBlank c = true) :
    Before.gap.after w = .gap := by
  induction w with
  | nil => rfl
  | cons c w ih =>
    obtain ⟨hc, hw⟩ := List.forall_mem_cons.1 h
    show (Before.gap.next c).after w = .gap
    rw [Before.next_of_isWordPart (isWordPart_of_isBlank hc)]
    exact ih hw

/-- What is cut off at the end of a text is no piece, if there are no marks in it. -/
theorem pieces_dropEndWhile {p : Char → Bool} (hp : ∀ m, isMark m = true → p m = false)
    (cs : List Char) (before : Before) :
    pieces before (dropEndWhile p cs) = pieces before cs := by
  have hw : MarkFree (cs.reverse.takeWhile p).reverse :=
    markFree_of_forall hp fun _ hc => List.mem_takeWhile_imp (List.mem_reverse.1 hc)
  have hsplit : dropEndWhile p cs ++ (cs.reverse.takeWhile p).reverse = cs := by
    rw [dropEndWhile, ← List.reverse_append, List.takeWhile_append_dropWhile, List.reverse_reverse]
  calc pieces before (dropEndWhile p cs)
    _ = pieces before (dropEndWhile p cs ++ (cs.reverse.takeWhile p).reverse) :=
      (pieces_append_markFree _ hw before).symm
    _ = pieces before cs := by rw [hsplit]

/-- Blanks at the ends of a text make no difference to its pieces. -/
theorem pieces_stripWhile (cs : List Char) :
    pieces .gap (stripWhile isBlank cs) = pieces .gap cs := by
  have hblank : ∀ c ∈ cs.takeWhile isBlank, isBlank c = true := fun _ => List.mem_takeWhile_imp
  calc pieces .gap (stripWhile isBlank cs)
    _ = pieces .gap (cs.dropWhile isBlank) :=
      pieces_dropEndWhile (fun _ => isBlank_of_isMark) _ _
    _ = pieces (Before.gap.after (cs.takeWhile isBlank)) (cs.dropWhile isBlank) := by
      rw [after_of_all_isBlank hblank]
    _ = pieces .gap (cs.takeWhile isBlank ++ cs.dropWhile isBlank) :=
      (pieces_append (markFree_of_forall (fun _ => isBlank_of_isMark) hblank) _).symm
    _ = pieces .gap cs := by rw [List.takeWhile_append_dropWhile]

end SchemaPlan.Sql
