import ConditionalTemplate.Proofs.Normalization.Characters
import ConditionalTemplate.Proofs.Text.Trimming
import Mathlib.Data.List.SplitBy

/-!
# Normalization line by line

The three steps and the trim of `normalize` look at runs of white space across line breaks. Seen
from a line they do no more than tidy it: the lines that are not blank stay, each trimmed and with
single spaces, one below the other (`normalize_eq_tidyLines`).

What the second and third step leave of a text depends on whether a line break stands before it,
and the trim makes no difference of that (`trimStart_dropAfter`). So the text below a break is taken
line by line (`belowBreak_append`), and the first line is one below a break as well.
-/

namespace ConditionalTemplate.Normalization

open Text (isBlank isFilled trim trimStart trimEnd words)

/-- The lines that are not blank. -/
def filledLines (s : List Char) : List (List Char) :=
  (s.splitOn '\n').filter isFilled

/-- The maximal runs of spaces and tabs, and every other character by itself. -/
def runs (s : List Char) : List (List Char) :=
  s.splitBy fun a b => isSpaceOrTab a && isSpaceOrTab b

/-- One space in place of each run of spaces and tabs. -/
def singleSpaced (s : List Char) : List Char :=
  (runs s).flatMap fun run => if run.all isSpaceOrTab then [' '] else run

def tidyLine (l : List Char) : List Char :=
  singleSpaced (trim l)

/-- The lines that are not blank, tidied, with line breaks between them. -/
def tidyLines (s : List Char) : List Char :=
  ['\n'].intercalate ((filledLines s).map tidyLine)

variable {s t l run rest : List Char} {c : Char} {inRun : Bool}

/-! ### Runs of spaces and tabs -/

theorem singleSpaced_cons (hc : isSpaceOrTab c = false) (s : List Char) :
    singleSpaced (c :: s) = c :: singleSpaced s := by
  have hruns : runs ([c] ++ s) = runs [c] ++ runs s :=
    List.splitBy_append fun x hx y _ => by
      rw [← Option.some.inj hx, List.getLast_singleton, hc, Bool.false_and]
  have hone : runs [c] = [[c]] := rfl
  have hall : ¬[c].all isSpaceOrTab = true := by simp [hc]
  show (runs ([c] ++ s)).flatMap _ = _
  rw [hruns, hone, List.flatMap_append, List.flatMap_singleton, if_neg hall]
  rfl

theorem singleSpaced_append (hne : run ≠ []) (hrun : ∀ c ∈ run, isSpaceOrTab c = true)
    (hrest : ∀ c ∈ rest.head?, isSpaceOrTab c = false) :
    singleSpaced (run ++ rest) = ' ' :: singleSpaced rest := by
  have hruns : runs (run ++ rest) = runs run ++ runs rest :=
    List.splitBy_append fun x _ y hy => by rw [hrest y hy, Bool.and_false]
  have hchain : run.IsChain fun a b => (isSpaceOrTab a && isSpaceOrTab b) = true :=
    List.Pairwise.isChain <| List.pairwise_of_forall_mem_list fun a ha b hb => by
      rw [hrun a ha, hrun b hb, Bool.and_true]
  have hone : runs run = [run] := List.splitBy_of_isChain hne hchain
  rw [singleSpaced, hruns, hone, List.flatMap_append, List.flatMap_singleton,
    if_pos (List.all_eq_true.mpr hrun)]
  rfl

/-- The first step puts a space for each run; inside of one it goes on after its end. -/
theorem collapse_eq_singleSpaced (inRun : Bool) (s : List Char) :
    collapse inRun s = singleSpaced (if inRun then s.dropWhile isSpaceOrTab else s) := by
  induction s generalizing inRun with
  | nil => cases inRun <;> rfl
  | cons c s ih =>
    by_cases hc : isSpaceOrTab c = true
    · have hspace : ' ' :: collapse true s = singleSpaced (c :: s) := by
        have hrun : ∀ d ∈ c :: s.takeWhile isSpaceOrTab, isSpaceOrTab d = true :=
          List.forall_mem_cons.mpr ⟨hc, fun _ => Text.eq_true_of_mem_takeWhile⟩
        have hs := singleSpaced_append (List.cons_ne_nil _ _) hrun
          fun _ => Text.eq_false_of_mem_head?_dropWhile (s := s)
        rw [List.cons_append, List.takeWhile_append_dropWhile] at hs
        rw [hs, ih true, if_pos rfl]
      cases inRun with
      | true =>
        rw [collapse, if_pos hc, if_pos rfl, ih, if_pos rfl, if_pos rfl,
          List.dropWhile_cons_of_pos hc]
      | false => rwa [collapse, if_pos hc, if_neg (by decide), if_neg (by decide)]
    · have hc' : isSpaceOrTab c = false := Bool.eq_false_iff.mpr hc
      have hdrop : (if inRun then (c :: s).dropWhile isSpaceOrTab else c :: s) = c :: s := by
        rw [List.dropWhile_cons_of_neg hc, ite_self]
      rw [collapse, if_neg hc, hdrop, singleSpaced_cons hc', ih, if_neg (by decide)]

theorem collapse_append_cons (hc : isSpaceOrTab c = false) (inRun : Bool) (s t : List Char) :
    collapse inRun (s ++ c :: t) = collapse inRun s ++ c :: collapse false t := by
  fun_induction collapse inRun s with
  | case1 inRun => rw [List.nil_append, collapse, if_neg (by rw [hc]; decide), List.nil_append]
  | case2 x s hx ih => rw [List.cons_append, collapse, if_pos hx, if_pos rfl, ih]
  | case3 inRun x s hx hrun ih =>
    rw [List.cons_append, collapse, if_pos hx, if_neg hrun, ih, List.cons_append]
  | case4 inRun x s hx ih => rw [List.cons_append, collapse, if_neg hx, ih, List.cons_append]

/-! ### The first step on a line -/

theorem isFilled_collapse (inRun : Bool) (s : List Char) :
    isFilled (collapse inRun s) = isFilled s := by
  have hspace : ∀ c, isSpaceOrTab c = true → (!isBlank c) = false := fun c hc => by
    rw [isBlank_of_isSpaceOrTab hc]
    rfl
  rw [Text.isFilled_eq_isEmpty_filter, Text.isFilled_eq_isEmpty_filter, filter_collapse hspace]

theorem trimStart_collapse (inRun : Bool) (s : List Char) :
    trimStart (collapse inRun s) = collapse false (trimStart s) := by
  induction s generalizing inRun with
  | nil => rfl
  | cons c s ih =>
    by_cases hc : isBlank c = true
    · have hs : trimStart (c :: s) = trimStart s := List.dropWhile_cons_of_pos hc
      rw [hs, ← ih (isSpaceOrTab c), collapse]
      split
      · next hspace =>
        rw [hspace]
        split
        · rfl
        · exact List.dropWhile_cons_of_pos (isBlank_of_isSpaceOrTab rfl)
      · next hspace =>
        rw [Bool.eq_false_iff.mpr hspace]
        exact List.dropWhile_cons_of_pos hc
    · have hspace : ¬isSpaceOrTab c = true := fun h => hc (isBlank_of_isSpaceOrTab h)
      have hs : trimStart (c :: s) = c :: s := List.dropWhile_cons_of_neg hc
      have ht : trimStart (c :: collapse false s) = c :: collapse false s :=
        List.dropWhile_cons_of_neg hc
      rw [hs, collapse, if_neg hspace, ht, collapse, if_neg hspace]

theorem trimEnd_collapse (inRun : Bool) (s : List Char) :
    trimEnd (collapse inRun s) = collapse inRun (trimEnd s) := by
  have hs := Text.trimEnd_append_trailing s
  have htrail : ∀ c ∈ collapse false (Text.trailing s), isBlank c = true := by
    rw [← Text.isFilled_eq_false_iff, isFilled_collapse, Text.isFilled_eq_false_iff]
    exact fun _ => Text.isBlank_of_mem_trailing
  rcases List.eq_nil_or_concat (trimEnd s) with hnil | ⟨e, c, he⟩
  · have hblank : isFilled (collapse inRun s) = false := by
      rw [isFilled_collapse, Text.isFilled_eq_false_iff, ← hs, hnil]
      exact fun _ => Text.isBlank_of_mem_trailing
    rw [hnil, Text.trimEnd_of_blank hblank]
    rfl
  · have hc : isBlank c = false :=
      Text.isBlank_of_mem_getLast?_trimEnd (s := s) (by rw [he, List.concat_eq_append]; simp)
    have hspace : isSpaceOrTab c = false :=
      Bool.eq_false_iff.mpr fun h => by cases hc.symm.trans (isBlank_of_isSpaceOrTab h)
    rw [he, List.concat_eq_append, List.append_assoc] at hs
    rw [he, List.concat_eq_append, ← hs, List.singleton_append, collapse_append_cons hspace,
      collapse_append_cons hspace, ← List.singleton_append, ← List.append_assoc]
    exact Text.trimEnd_eq_of_append (by simpa using hc) htrail

theorem tidyLine_eq (l : List Char) : tidyLine l = trim (collapse false l) := by
  rw [trim, trimStart_collapse, trimEnd_collapse, collapse_eq_singleSpaced, tidyLine]
  rfl

theorem isFilled_tidyLine (l : List Char) : isFilled (tidyLine l) = isFilled l := by
  rw [tidyLine_eq, Text.isFilled_eq_isEmpty_filter, filter_trim (by simp),
    ← Text.isFilled_eq_isEmpty_filter, isFilled_collapse]

/-! ### Below a line break -/

/-- What the second and the third step leave of a text in front of which a line break stands. -/
def belowBreak (s : List Char) : List Char :=
  dropAfter true (dropBefore s)

/-- White space in front is dropped below a break, and by trimming as well. -/
theorem trimStart_dropAfter (inRun : Bool) (s : List Char) :
    trimStart (dropAfter inRun s) = dropAfter true s := by
  induction s generalizing inRun with
  | nil => rfl
  | cons c s ih =>
    by_cases hc : isBlank c = true
    · have hkept : trimStart (c :: dropAfter (c == '\n') s) = dropAfter true s := by
        rw [trimStart, List.dropWhile_cons_of_pos hc]
        exact ih _
      cases inRun with
      | true => rw [dropAfter, if_pos hc, if_pos rfl, ih]
      | false =>
        rw [dropAfter, if_pos hc, if_neg (by decide), hkept, dropAfter, if_pos hc, if_pos rfl]
    · rw [dropAfter, if_neg hc, dropAfter, if_neg hc, trimStart, List.dropWhile_cons_of_neg hc]

theorem normalize_eq_trimEnd (s : List Char) :
    normalize s = trimEnd (belowBreak (collapse false s)) := by
  rw [normalize, trim, trimStart_dropAfter, belowBreak]

theorem dropAfter_true (s : List Char) : dropAfter true s = dropAfter false (trimStart s) := by
  induction s with
  | nil => rfl
  | cons c s ih =>
    by_cases hc : isBlank c = true
    · rw [dropAfter, if_pos hc, if_pos rfl, ih, trimStart, trimStart, List.dropWhile_cons_of_pos hc]
    · rw [trimStart, List.dropWhile_cons_of_neg hc, dropAfter, if_neg hc, dropAfter, if_neg hc]

theorem break_not_mem_cons : '\n' ∉ c :: l ↔ (c == '\n') = false ∧ '\n' ∉ l := by
  rw [List.mem_cons, not_or, beq_eq_false_iff_ne, ne_comm]

theorem dropAfter_append (h : '\n' ∉ l) (t : List Char) :
    dropAfter false (l ++ t) = l ++ dropAfter false t := by
  induction l with
  | nil => rfl
  | cons c l ih =>
    obtain ⟨hbreak, hl⟩ := break_not_mem_cons.mp h
    rw [List.cons_append, dropAfter, hbreak, ih hl, if_neg Bool.false_ne_true, ite_self,
      List.cons_append]

theorem reachesBreak_append (h : '\n' ∉ l) (t : List Char) :
    reachesBreak (l ++ '\n' :: t) = !isFilled l := by
  induction l with
  | nil => rfl
  | cons c l ih =>
    obtain ⟨hbreak, hl⟩ := break_not_mem_cons.mp h
    rw [List.cons_append, reachesBreak, hbreak, ih hl]
    simp [isFilled]

theorem reachesBreak_of_not_mem (h : '\n' ∉ l) : reachesBreak l = false := by
  induction l with
  | nil => rfl
  | cons c l ih =>
    obtain ⟨hbreak, hl⟩ := break_not_mem_cons.mp h
    rw [reachesBreak, hbreak, ih hl, Bool.and_false, Bool.or_false]

theorem dropBefore_of_not_mem (h : '\n' ∉ l) : dropBefore l = l := by
  induction l with
  | nil => rfl
  | cons c l ih =>
    have hl := (break_not_mem_cons.mp h).2
    rw [dropBefore, reachesBreak_of_not_mem hl, Bool.and_false, if_neg Bool.false_ne_true, ih hl]

/-- A line above a break loses the white space at its end. -/
theorem dropBefore_append (h : '\n' ∉ l) (t : List Char) :
    dropBefore (l ++ '\n' :: t) = trimEnd l ++ dropBefore ('\n' :: t) := by
  induction l with
  | nil => rfl
  | cons c l ih =>
    have hl := (break_not_mem_cons.mp h).2
    have hend := Text.trimEnd_append [c] l
    rw [List.singleton_append] at hend
    rw [List.cons_append, dropBefore, reachesBreak_append hl, ih hl, hend]
    cases hfilled : isFilled l with
    | true => simp
    | false =>
      rw [Text.trimEnd_of_blank hfilled]
      cases hc : isBlank c <;> simp [hc, trimEnd]

/-- The white space from one break to the next goes, and so does one of the breaks. -/
theorem dropAfter_dropBefore_break (t : List Char) :
    dropAfter false (dropBefore ('\n' :: t)) = '\n' :: belowBreak t := by
  have hbreak (u : List Char) : dropAfter false ('\n' :: u) = '\n' :: dropAfter true u := rfl
  have hblank : isBlank '\n' = true := rfl
  rw [dropBefore, hblank, Bool.true_and, belowBreak]
  split
  · next h =>
    obtain ⟨u, hu⟩ := exists_dropBefore_eq h
    rw [hu, hbreak]
    rfl
  · exact hbreak _

theorem belowBreak_break (t : List Char) : belowBreak ('\n' :: t) = belowBreak t := by
  have h := congrArg trimStart (dropAfter_dropBefore_break t)
  rw [trimStart_dropAfter] at h
  have hblank : isBlank '\n' = true := rfl
  rw [belowBreak, h, trimStart, List.dropWhile_cons_of_pos hblank, belowBreak]
  exact trimStart_dropAfter true _

theorem belowBreak_of_not_mem (h : '\n' ∉ l) : belowBreak l = trimStart l := by
  have hstart : '\n' ∉ trimStart l := fun hm => h (List.dropWhile_subset _ hm)
  have happ := dropAfter_append hstart []
  rw [List.append_nil] at happ
  rw [belowBreak, dropBefore_of_not_mem h, dropAfter_true, happ]
  exact List.append_nil _

/-- Below a break a blank line goes, and another one is trimmed. -/
theorem belowBreak_append (h : '\n' ∉ l) (t : List Char) : belowBreak (l ++ '\n' :: t) =
    if isFilled l then trim l ++ '\n' :: belowBreak t else belowBreak t := by
  rw [belowBreak, dropBefore_append h, dropAfter_true]
  split
  · next hl =>
    have hend := (Text.isFilled_trimEnd l).trans hl
    have hbreak : '\n' ∉ trimStart (trimEnd l) := fun hm =>
      h ((isInfix_trim l).subset (Text.trim_eq_trimStart l ▸ hm))
    rw [Text.trimStart_append_of_filled hend, dropAfter_append hbreak, dropAfter_dropBefore_break,
      Text.trim_eq_trimStart]
  · next hl =>
    rw [Text.trimEnd_of_blank (Bool.eq_false_iff.mpr hl), List.nil_append, ← dropAfter_true]
    exact belowBreak_break t

/-! ### Line by line -/

/-- A text is one line, or a line and the text below it. -/
theorem line_induction {motive : List Char → Prop} (last : ∀ l, '\n' ∉ l → motive l)
    (line : ∀ l t, '\n' ∉ l → motive t → motive (l ++ '\n' :: t)) (s : List Char) : motive s := by
  induction h : s.length using Nat.strong_induction_on generalizing s with
  | _ n ih =>
    by_cases hs : '\n' ∈ s
    · obtain ⟨l, t, rfl, hl⟩ := List.eq_append_cons_of_mem hs
      refine line l t hl (ih t.length ?_ t rfl)
      rw [← h, List.length_append, List.length_cons]
      omega
    · exact last s hs

theorem isFilled_of_mem_filledLines (h : l ∈ filledLines s) : isFilled l = true :=
  (List.mem_filter.mp h).2

theorem filledLines_of_not_mem (h : '\n' ∉ l) : filledLines l = [l].filter isFilled := by
  rw [filledLines, List.splitOn_eq_singleton h]

theorem filledLines_append (h : '\n' ∉ l) (t : List Char) : filledLines (l ++ '\n' :: t) =
    if isFilled l then l :: filledLines t else filledLines t := by
  rw [filledLines, List.splitOn_append_cons_self_of_not_mem h, List.filter_cons]
  rfl

theorem isFilled_tidyLines (s : List Char) :
    isFilled (tidyLines s) = !(filledLines s).isEmpty := by
  cases h : filledLines s with
  | nil => rw [tidyLines, h]; rfl
  | cons l ls =>
    have hl : isFilled (tidyLine l) = true := by
      rw [isFilled_tidyLine]
      exact isFilled_of_mem_filledLines (h ▸ List.mem_cons_self)
    rw [tidyLines, h, List.map_cons]
    cases ls with
    | nil => rw [List.map_nil, List.intercalate_singleton, hl]; rfl
    | cons l' ls => simp [List.intercalate_cons_cons, hl]

theorem tidyLines_of_not_mem (h : '\n' ∉ l) : tidyLines l = tidyLine l := by
  rw [tidyLines, filledLines_of_not_mem h]
  cases hl : isFilled l with
  | true => rw [List.filter_cons_of_pos hl]; exact List.intercalate_singleton
  | false =>
    rw [List.filter_cons_of_neg (Bool.eq_false_iff.mp hl), tidyLine, trim,
      Text.trimStart_of_blank hl]
    rfl

theorem tidyLines_append (h : '\n' ∉ l) (t : List Char) : tidyLines (l ++ '\n' :: t) =
    if isFilled l then
      if isFilled (tidyLines t) then tidyLine l ++ '\n' :: tidyLines t else tidyLine l
    else tidyLines t := by
  rw [isFilled_tidyLines, tidyLines, filledLines_append h, tidyLines]
  split
  · cases filledLines t with
    | nil => exact List.intercalate_singleton
    | cons l' ls => simp [List.intercalate_cons_cons]
  · rfl

theorem not_mem_collapse (h : '\n' ∉ s) (inRun : Bool) : '\n' ∉ collapse inRun s := by
  have hspace : ∀ c, isSpaceOrTab c = true → (c == '\n') = false := fun c hc =>
    beq_eq_false_iff_ne.mpr fun he => by rw [he] at hc; cases hc
  intro hm
  have hfilter : '\n' ∈ (collapse inRun s).filter (· == '\n') := List.mem_filter.mpr ⟨hm, rfl⟩
  rw [filter_collapse hspace] at hfilter
  exact h (List.mem_filter.mp hfilter).1

theorem not_mem_tidyLine (h : '\n' ∉ l) : '\n' ∉ tidyLine l := fun hm =>
  not_mem_collapse h false ((isInfix_trim _).subset (tidyLine_eq l ▸ hm))

/-- A tidied line and the text below it, of which the trim takes the white space at the end. -/
theorem trimEnd_append_break (l t : List Char) : trimEnd (tidyLine l ++ '\n' :: t) =
    if isFilled (trimEnd t) then tidyLine l ++ '\n' :: trimEnd t else tidyLine l := by
  have hfilled : isFilled ('\n' :: t) = isFilled (trimEnd t) := (Text.isFilled_trimEnd t).symm
  have hbreak := Text.trimEnd_append ['\n'] t
  have hline : trimEnd (tidyLine l) = tidyLine l := by
    have hlast := Text.trimEnd_eq_of_append (t := [])
      (fun _ => Text.isBlank_of_mem_getLast?_trimEnd (s := trimStart (collapse false l))) nofun
    rwa [List.append_nil, ← trim, ← tidyLine_eq] at hlast
  rw [Text.trimEnd_append, hfilled, hline]
  split
  · next h =>
    rw [Text.isFilled_trimEnd] at h
    rw [List.singleton_append, if_pos h, List.singleton_append] at hbreak
    rw [hbreak]
  · rfl

theorem trimEnd_belowBreak_collapse (s : List Char) :
    trimEnd (belowBreak (collapse false s)) = tidyLines s := by
  induction s using line_induction with
  | last l hl =>
    rw [belowBreak_of_not_mem (not_mem_collapse hl false), tidyLines_of_not_mem hl, tidyLine_eq,
      trim]
  | line l t hl ih =>
    rw [collapse_append_cons rfl, belowBreak_append (not_mem_collapse hl false), isFilled_collapse,
      ← tidyLine_eq, tidyLines_append hl]
    split
    · rw [trimEnd_append_break, ih]
    · exact ih

/-! ### The words of the lines -/

/-- In front of a run there may be the beginning of a word, inside of one there is none. -/
theorem words_append_collapse (h : inRun = true → t = []) (s : List Char) :
    words (t ++ collapse inRun s) = words (t ++ s) := by
  induction s generalizing inRun t with
  | nil => rfl
  | cons c s ih =>
    rw [collapse]
    split
    · next hc =>
      have hblank := isBlank_of_isSpaceOrTab hc
      have hs : words (collapse true s) = words s := ih (t := []) fun _ => rfl
      rw [Text.words_append_blank hblank, ← hs]
      split
      · next hrun => rw [h hrun]; rfl
      · exact Text.words_append_blank rfl t _
    · have hstart : false = true → t ++ [c] = [] := fun h => absurd h Bool.false_ne_true
      rw [List.append_cons, ih hstart, ← List.append_cons]

theorem words_tidyLine (l : List Char) : words (tidyLine l) = words l := by
  rw [tidyLine_eq, Text.words_trim]
  exact words_append_collapse (t := []) (fun _ => rfl) l

theorem flatMap_words_filter (ls : List (List Char)) :
    (ls.filter isFilled).flatMap words = ls.flatMap words := by
  induction ls with
  | nil => rfl
  | cons l ls ih =>
    cases h : isFilled l with
    | true => rw [List.filter_cons_of_pos h, List.flatMap_cons, ih, List.flatMap_cons]
    | false =>
      rw [List.filter_cons_of_neg (Bool.eq_false_iff.mp h), ih, List.flatMap_cons,
        Text.words_of_blank h, List.nil_append]

theorem words_tidyLines (s : List Char) : words (tidyLines s) = words s := by
  rw [tidyLines, Text.words_intercalate rfl, List.flatMap_map]
  simp only [words_tidyLine]
  rw [filledLines, flatMap_words_filter, ← Text.words_intercalate (c := '\n') rfl,
    List.intercalate_splitOn]

theorem filledLines_tidyLines (s : List Char) :
    filledLines (tidyLines s) = (filledLines s).map tidyLine := by
  have hone (l : List Char) (hl : '\n' ∉ l) :
      filledLines (tidyLine l) = ([l].filter isFilled).map tidyLine := by
    rw [filledLines_of_not_mem (not_mem_tidyLine hl)]
    cases h : isFilled l <;> simp [h, isFilled_tidyLine]
  induction s using line_induction with
  | last l hl => rw [tidyLines_of_not_mem hl, hone l hl, filledLines_of_not_mem hl]
  | line l t hl ih =>
    rw [tidyLines_append hl, filledLines_append hl]
    split
    · next hfilled =>
      split
      · rw [filledLines_append (not_mem_tidyLine hl), isFilled_tidyLine, if_pos hfilled, ih,
          List.map_cons]
      · next hbelow =>
        have hnil : filledLines t = [] := by simpa [isFilled_tidyLines] using hbelow
        rw [hone l hl, List.filter_cons_of_pos hfilled, hnil, List.filter_nil]
    · exact ih

theorem filter_tidyLine (l : List Char) :
    (tidyLine l).filter (fun c => !isSpaceOrTab c) = (trim l).filter fun c => !isSpaceOrTab c := by
  have h := collapse_eq_singleSpaced false (trim l)
  rw [if_neg Bool.false_ne_true] at h
  rw [tidyLine, ← h, filter_collapse (by simp)]

/-- Normalization tidies a text line by line. So its lines are the lines of the text that are not
blank, each tidied; of a line the words stay, and all that is neither a space nor a tab between its
first and its last character that is not white space. -/
theorem normalize_eq_tidyLines (s : List Char) :
    normalize s = tidyLines s ∧
      filledLines (normalize s) = (filledLines s).map tidyLine ∧
      words (normalize s) = words s ∧
      ∀ l, words (tidyLine l) = words l ∧
        (tidyLine l).filter (fun c => !isSpaceOrTab c) =
          (trim l).filter fun c => !isSpaceOrTab c := by
  have h : normalize s = tidyLines s :=
    (normalize_eq_trimEnd s).trans (trimEnd_belowBreak_collapse s)
  rw [h]
  exact ⟨rfl, filledLines_tidyLines s, words_tidyLines s,
    fun l => ⟨words_tidyLine l, filter_tidyLine l⟩⟩

end ConditionalTemplate.Normalization
