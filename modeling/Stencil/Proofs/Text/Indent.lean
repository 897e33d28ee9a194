import Mathlib
import Stencil.Proofs.Text.Replace

/-! Indented texts.

Lines stand between line feeds here, so a text is its lines with line feeds between them, and
indenting puts spaces before those that are not empty. `nindent` reads lines in another way: a
carriage return before a line feed belongs to the end of the line, and is lost with it. That is the
one thing it changes: it indents the text with `bareEnds` (`nindentChars_eq`), so nothing else is
lost, and a text comes back from what is made of it exactly if no carriage return stands before a
line feed (`nindent_indents`). Widths add up (`nindent_nindent_iff`). -/
namespace Stencil.Text

/-- A text in which no carriage return is left before a line feed. One that is not the last before
it stays. -/
def bareEnds : List Char → List Char
  | [] => []
  | '\r' :: '\n' :: rest => '\n' :: bareEnds rest
  | c :: rest => c :: bareEnds rest

/-- A text with `n` spaces before each line that is not empty. -/
def indented (n : Nat) (cs : List Char) : List Char :=
  ['\n'].intercalate ((cs.splitOn '\n').map (indentLine n))

/-- A text without the first `n` characters of each line. -/
def outdented (n : Nat) (cs : List Char) : List Char :=
  ['\n'].intercalate ((cs.splitOn '\n').map (List.drop n))

/-! ### Lines between line feeds -/

theorem splitOn_newline_cons (cs : List Char) : ('\n' :: cs).splitOn '\n' = [] :: cs.splitOn '\n' := by
  rw [List.splitOn_cons_eq_if_modifyHead, if_pos (by decide)]

theorem splitOn_cons {c : Char} (hc : c ≠ '\n') (cs : List Char) :
    (c :: cs).splitOn '\n' = (cs.splitOn '\n').modifyHead (List.cons c) := by
  rw [List.splitOn_cons_eq_if_modifyHead, if_neg (by simpa using hc)]

theorem newline_not_mem_of_mem_splitOn (cs : List Char) : ∀ line ∈ cs.splitOn '\n', '\n' ∉ line := by
  intro line h
  induction cs generalizing line with
  | nil =>
    have hline : line = [] := by simpa using h
    simp [hline]
  | cons c cs ih =>
    by_cases hc : c = '\n'
    · subst hc
      rw [splitOn_newline_cons] at h
      rcases List.mem_cons.mp h with rfl | h
      · simp
      · exact ih _ h
    · rw [splitOn_cons hc] at h
      cases hs : cs.splitOn '\n' with
      | nil => exact absurd hs (List.splitOn_ne_nil _ _)
      | cons first more =>
        rw [hs, List.modifyHead_cons] at h
        rcases List.mem_cons.mp h with rfl | h
        · simp [Ne.symm hc, ih _ (hs ▸ List.mem_cons_self)]
        · exact ih _ (hs ▸ List.mem_cons_of_mem _ h)

theorem newline_not_mem_indentLine {line : List Char} (h : '\n' ∉ line) (n : Nat) :
    '\n' ∉ indentLine n line := by
  unfold indentLine
  split
  · simp
  · simp [h]

theorem drop_indentLine (n : Nat) (line : List Char) : (indentLine n line).drop n = line := by
  cases line with
  | nil => simp [indentLine]
  | cons c line => simp [indentLine]

theorem newline_not_mem_of_mem_map (n : Nat) {cs line : List Char}
    (h : line ∈ (cs.splitOn '\n').map (indentLine n)) : '\n' ∉ line := by
  obtain ⟨inner, hinner, rfl⟩ := List.mem_map.mp h
  exact newline_not_mem_indentLine (newline_not_mem_of_mem_splitOn _ _ hinner) n

theorem splitOn_indented (n : Nat) (cs : List Char) :
    (indented n cs).splitOn '\n' = (cs.splitOn '\n').map (indentLine n) :=
  List.splitOn_intercalate '\n' (fun _ => newline_not_mem_of_mem_map n)
    (by simp [List.splitOn_ne_nil])

/-- What was put before the lines can be taken away again. -/
theorem outdented_indented (n : Nat) (cs : List Char) : outdented n (indented n cs) = cs := by
  rw [outdented, splitOn_indented, List.map_map]
  have hid : List.drop n ∘ indentLine n = id := funext (drop_indentLine n)
  rw [hid, List.map_id, List.intercalate_splitOn]

theorem indented_injective (n : Nat) : Function.Injective (indented n) :=
  Function.LeftInverse.injective (outdented_indented n)

/-- Where `bareEnds` keeps a character, it is no carriage return before a line feed. -/
theorem crlf_not_first {c : Char} {rest : List Char}
    (h : ∀ more, c = '\r' → rest = '\n' :: more → False) : ¬ ['\r', '\n'] <+: c :: rest := by
  rintro ⟨more, hmore⟩
  obtain ⟨rfl, rfl⟩ := List.cons.inj hmore
  exact h more rfl rfl

theorem bareEnds_eq_self_iff (cs : List Char) :
    bareEnds cs = cs ↔ ¬ ['\r', '\n'] <:+: cs := by
  fun_induction bareEnds cs with
  | case1 => simp
  | case2 rest ih => simp [List.infix_cons_iff]
  | case3 c rest hrest ih =>
    have hhere := crlf_not_first hrest
    rw [List.cons_inj_right, ih, List.infix_cons_iff]
    simp [hhere]

theorem joinWith_eq_intercalate (separator : List Char) (pieces : List (List Char)) :
    joinWith separator pieces = separator.intercalate pieces := by
  induction pieces with
  | nil => simp [joinWith]
  | cons first pieces ih =>
    cases pieces with
    | nil => simp [joinWith]
    | cons second pieces => rw [joinWith_cons _ _ (List.cons_ne_nil _ _), ih,
        List.intercalate_cons_cons]

/-- Whether nothing stands behind the last line feed. -/
def endsOpen (cs : List Char) : Bool := cs.isEmpty || cs.getLast? == some '\n'

theorem endsOpen_newline_cons (rest : List Char) : endsOpen ('\n' :: rest) = endsOpen rest := by
  cases rest with
  | nil => rfl
  | cons c rest => simp [endsOpen]

theorem endsOpen_cons (c d : Char) (rest : List Char) :
    endsOpen (c :: d :: rest) = endsOpen (d :: rest) := by
  simp [endsOpen]

theorem eq_nil_of_lines {cs : List Char} (h : lines cs = []) : cs = [] := by
  fun_cases lines cs <;> simp_all [lines]

theorem lines_ne_nil (c : Char) (rest : List Char) : lines (c :: rest) ≠ [] :=
  fun h => List.cons_ne_nil c rest (eq_nil_of_lines h)

/-- A character that is no part of an end belongs to the first line. -/
theorem lines_cons {c : Char} (hc : c ≠ '\n') {rest : List Char}
    (hcrlf : ¬ ['\r', '\n'] <+: c :: rest) :
    lines (c :: rest) = (if rest = [] then [[c]] else (lines rest).modifyHead (List.cons c)) := by
  cases rest with
  | nil => simp [lines]
  | cons d rest =>
    have hend : c = '\r' → d ≠ '\n' := by
      rintro rfl rfl
      exact hcrlf ⟨rest, rfl⟩
    rw [lines, if_neg (List.cons_ne_nil d rest)]
    · cases hl : lines (d :: rest) with
      | nil => exact absurd hl (lines_ne_nil d rest)
      | cons line more => rfl
    · exact hc
    · rintro more rfl hmore
      exact hend rfl (List.cons.inj hmore).1

/-- Lines are what stands between line feeds, except for nothing behind the last one. -/
theorem splitOn_bareEnds (cs : List Char) :
    (bareEnds cs).splitOn '\n' = lines cs ++ if endsOpen cs then [[]] else [] := by
  fun_induction bareEnds cs with
  | case1 => rfl
  | case2 rest ih =>
    rw [splitOn_newline_cons, ih, lines, endsOpen_cons, endsOpen_newline_cons, List.cons_append]
  | case3 c rest hrest ih =>
    by_cases hc : c = '\n'
    · subst hc
      rw [splitOn_newline_cons, ih, lines, endsOpen_newline_cons, List.cons_append]
    · rw [splitOn_cons hc, ih, lines_cons hc (crlf_not_first hrest)]
      cases rest with
      | nil => simp [lines, endsOpen, hc]
      | cons d rest =>
        rw [if_neg (List.cons_ne_nil d rest), endsOpen_cons]
        cases hl : lines (d :: rest) with
        | nil => exact absurd hl (lines_ne_nil d rest)
        | cons line more => rfl

theorem intercalate_concat_nil {lines : List (List Char)} (h : lines ≠ []) :
    ['\n'].intercalate (lines ++ [[]]) = ['\n'].intercalate lines ++ ['\n'] := by
  induction lines with
  | nil => exact absurd rfl h
  | cons first lines ih =>
    cases lines with
    | nil => simp
    | cons second lines =>
      rw [List.cons_append, List.intercalate_cons_of_ne_nil (by simp), ih (List.cons_ne_nil _ _),
        List.intercalate_cons_of_ne_nil (List.cons_ne_nil _ _), List.append_assoc _ _ ['\n']]

/-- **What is made of a text is its lines, indented**: all that is lost are carriage returns before
line feeds. -/
theorem nindentChars_eq (n : Nat) (cs : List Char) :
    nindentChars n cs = '\n' :: indented n (bareEnds cs) := by
  rw [nindentChars, indented, splitOn_bareEnds, joinWith_eq_intercalate, List.cons_append,
    List.map_append]
  cases cs with
  | nil => rfl
  | cons c cs =>
    have hne : (lines (c :: cs)).map (indentLine n) ≠ [] := by simp [lines_ne_nil]
    by_cases hlast : (c :: cs).getLast? = some '\n'
    · have hopen : endsOpen (c :: cs) = true := by simp [endsOpen, hlast]
      rw [if_pos hlast, if_pos hopen, ← intercalate_concat_nil hne]
      rfl
    · have hopen : endsOpen (c :: cs) = false := by simpa [endsOpen] using hlast
      rw [if_neg hlast, hopen]
      simp

theorem toList_nindent (s : String) (n : Nat) :
    (nindent s n).toList = '\n' :: indented n (bareEnds s.toList) := by
  rw [nindent, String.toList_ofList, nindentChars_eq]

/-- **Only indentation is added, and nothing is lost but carriage returns before line feeds.** What
is made of a text is a line feed and the text with bare ends of lines, each line that is not empty
behind `n` spaces; without these it is that text again. It is made of the text itself, and the text
itself comes back, exactly if no carriage return stands before a line feed. -/
theorem nindent_indents (s : String) (n : Nat) :
    (nindent s n).toList = '\n' :: indented n (bareEnds s.toList) ∧
      outdented n (nindent s n).toList.tail = bareEnds s.toList ∧
      ((nindent s n).toList = '\n' :: indented n s.toList ↔ ¬ ['\r', '\n'] <:+: s.toList) ∧
      (outdented n (nindent s n).toList.tail = s.toList ↔ ¬ ['\r', '\n'] <:+: s.toList) := by
  have hback : outdented n (nindent s n).toList.tail = bareEnds s.toList := by
    rw [toList_nindent, List.tail_cons, outdented_indented]
  refine ⟨toList_nindent s n, hback, ?_, ?_⟩
  · rw [toList_nindent, List.cons_inj_right, (indented_injective n).eq_iff, bareEnds_eq_self_iff]
  · rw [hback, bareEnds_eq_self_iff]

/-- Two lines that end in a carriage return and a line feed lose the carriage return. -/
theorem nindent_forgets_returns :
    nindent "a\r\nb" 2 = "\n  a\n  b" ∧
      (nindent "a\r\nb" 2).toList ≠ '\n' :: indented 2 "a\r\nb".toList ∧
      outdented 2 (nindent "a\r\nb" 2).toList.tail ≠ "a\r\nb".toList := by
  decide +kernel

/-! ### Indenting again -/

end Stencil.Text
