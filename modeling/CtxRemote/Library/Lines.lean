import CtxRemote.Library.Split
import Mathlib.Algebra.Order.Ring.Nat
import Mathlib.Data.List.Basic

/-! The lines of a text, its size in UTF-8, and cutting it at a byte. A line ends at a line feed or at
a carriage return with one; a carriage return alone stays in its line.
-/

namespace CtxRemote.Library

-----------------------------------------------------------------------------------------
-- Lines
-----------------------------------------------------------------------------------------

/-- `str::lines`. -/
def lines : List Char → List (List Char)
  | [] => []
  | '\n' :: rest => [] :: lines rest
  | '\r' :: '\n' :: rest => [] :: lines rest
  | c :: rest =>
      match lines rest with
      | [] => [[c]]
      | line :: later => (c :: line) :: later

/-- A line without one carriage return at its end. -/
def chomp (line : List Char) : List Char :=
  if line.getLast? = some '\r' then line.dropLast else line

/-- Lines with a line feed between them. -/
def joinLines (lines : List (List Char)) : List Char := ['\n'].intercalate lines

theorem chomp_cons {c : Char} {line : List Char} (more : line ≠ [] ∨ c ≠ '\r')
    : chomp (c :: line) = c :: chomp line := by
  cases line with
  | nil => simp [chomp, more.resolve_left (not_not.mpr rfl)]
  | cons next rest =>
      unfold chomp
      rw [List.getLast?_cons_cons]
      split <;> rfl

theorem chomp_eq_self {line : List Char} (plain : line.getLast? ≠ some '\r')
    : chomp line = line :=
  if_neg plain

theorem chomp_eq_self_iff {line : List Char} : chomp line = line ↔ line.getLast? ≠ some '\r' := by
  refine ⟨fun same ends => ?_, chomp_eq_self⟩
  obtain ⟨front, rfl⟩ := List.getLast?_eq_some_iff.mp ends
  rw [chomp, if_pos ends, List.dropLast_concat] at same
  exact List.cons_ne_nil _ _ (List.self_eq_append_right.mp same)

theorem map_chomp_eq_self_iff {all : List (List Char)}
    : all.map chomp = all ↔ ∀ line ∈ all, line.getLast? ≠ some '\r' := by
  induction all with
  | nil => simp
  | cons line rest ih => rw [List.map_cons, List.cons_eq_cons, List.forall_mem_cons, ih, chomp_eq_self_iff]

/-- The first character of a line that has more than a carriage return. -/
theorem head?_chomp {c : Char} {line : List Char} (plain : c ≠ '\r')
    : (chomp (c :: line)).head? = some c := by
  rw [chomp_cons (.inr plain)]
  rfl

theorem lines_cons {c : Char} {rest : List Char} (feed : c ≠ '\n')
    (return' : c ≠ '\r' ∨ rest.head? ≠ some '\n')
    : lines (c :: rest)
      = match lines rest with
        | [] => [[c]]
        | line :: later => (c :: line) :: later := by
  rw [lines]
  · rintro rfl
    exact feed rfl
  · rintro later rfl rfl
    rcases return' with other | other <;> exact other rfl

theorem lines_return (rest : List Char) : lines ('\r' :: '\n' :: rest) = [] :: lines rest := by
  rw [lines]

/-- A line with the line feed behind it. -/
theorem lines_append_feed {line : List Char} (single : '\n' ∉ line) (rest : List Char)
    : lines (line ++ '\n' :: rest) = chomp line :: lines rest := by
  induction line with
  | nil => exact lines.eq_2 rest
  | cons c line ih =>
      obtain ⟨feed, single⟩ := List.ne_and_not_mem_of_not_mem_cons single
      have later := ih single
      by_cases last : line = [] ∧ c = '\r'
      · obtain ⟨rfl, rfl⟩ := last
        exact lines_return rest
      · have more : line ≠ [] ∨ c ≠ '\r' := by tauto
        have return' : c ≠ '\r' ∨ (line ++ '\n' :: rest).head? ≠ some '\n' := by
          rcases more with more | other
          · obtain ⟨next, tail, rfl⟩ := List.exists_cons_of_ne_nil more
            right
            simpa [eq_comm] using fun same : next = '\n' => single (by simp [same])
          · exact .inl other
        rw [List.cons_append, lines_cons (Ne.symm feed) return', later, chomp_cons more]

/-- A last line without a line feed. -/
theorem lines_last {line : List Char} (single : '\n' ∉ line) (more : line ≠ [])
    : lines line = [line] := by
  induction line with
  | nil => exact absurd rfl more
  | cons c line ih =>
      obtain ⟨feed, single⟩ := List.ne_and_not_mem_of_not_mem_cons single
      have return' : line.head? ≠ some '\n' := fun head =>
        single (List.mem_of_mem_head? head)
      rw [lines_cons (Ne.symm feed) (.inr return')]
      by_cases last : line = []
      · rw [last]
        rfl
      · rw [ih single last]

/-- The lines of lines with a line feed behind each of them. -/
theorem lines_flatMap {texts : List (List Char)} (single : ∀ line ∈ texts, '\n' ∉ line)
    (rest : List Char)
    : lines ((texts.flatMap (· ++ ['\n'])) ++ rest) = texts.map chomp ++ lines rest := by
  induction texts with
  | nil => rfl
  | cons line later ih =>
      have here := single line List.mem_cons_self
      have split
          : (line :: later).flatMap (· ++ ['\n']) ++ rest
            = line ++ '\n' :: (later.flatMap (· ++ ['\n']) ++ rest) := by
        simp
      rw [split, lines_append_feed here, ih fun line member => single line (List.mem_cons_of_mem _ member)]
      rfl

theorem joinLines_append_feed {texts : List (List Char)} (more : texts ≠ [])
    : joinLines texts ++ ['\n'] = texts.flatMap (· ++ ['\n']) := by
  induction texts with
  | nil => exact absurd rfl more
  | cons line later ih =>
      cases later with
      | nil => simp [joinLines]
      | cons next rest =>
          have tail := ih (List.cons_ne_nil next rest)
          unfold joinLines at tail ⊢
          rw [List.intercalate_cons_cons, List.append_assoc, List.append_assoc, tail]
          simp

/-- A last line behind others. -/
theorem joinLines_append (texts : List (List Char)) (last : List Char)
    : joinLines (texts ++ [last]) = texts.flatMap (· ++ ['\n']) ++ last := by
  induction texts with
  | nil => simp [joinLines]
  | cons line later ih =>
      obtain ⟨next, rest, more⟩ := List.exists_cons_of_ne_nil
        (List.append_ne_nil_of_right_ne_nil later (List.cons_ne_nil last []))
      unfold joinLines at ih ⊢
      rw [List.cons_append, more, List.intercalate_cons_cons, ← more, ih, List.flatMap_cons]
      simp

/-- Lines with a line feed behind each of them make different texts. -/
theorem flatMap_feed_inj {left right : List (List Char)} (singleLeft : ∀ line ∈ left, '\n' ∉ line)
    (singleRight : ∀ line ∈ right, '\n' ∉ line)
    : left.flatMap (· ++ ['\n']) = right.flatMap (· ++ ['\n']) ↔ left = right := by
  refine ⟨fun same => ?_, fun same => same ▸ rfl⟩
  induction left generalizing right with
  | nil =>
      cases right with
      | nil => rfl
      | cons line rest => simp at same
  | cons line left ih =>
      cases right with
      | nil => simp at same
      | cons other right =>
          rw [List.flatMap_cons, List.flatMap_cons, List.append_assoc, List.append_assoc] at same
          have here := singleLeft line (.head _)
          have there := singleRight other (.head _)
          have parts := congrArg (splitn '\n' 2) same
          rw [List.singleton_append, List.singleton_append, splitn_append here, splitn_append there] at parts
          obtain ⟨rfl, later⟩ := List.cons_eq_cons.mp parts
          rw [ih (fun line member => singleLeft line (.tail _ member))
            (fun line member => singleRight line (.tail _ member)) (List.singleton_inj.mp later)]

/-- A line feed is in no line. -/
theorem not_mem_lines {text line : List Char} (member : line ∈ lines text) : '\n' ∉ line := by
  induction text using lines.induct generalizing line with
  | case1 => cases member
  | case2 rest ih =>
      rw [lines.eq_2] at member
      rcases List.mem_cons.mp member with rfl | member
      · exact List.not_mem_nil
      · exact ih member
  | case3 rest ih =>
      rw [lines_return] at member
      rcases List.mem_cons.mp member with rfl | member
      · exact List.not_mem_nil
      · exact ih member
  | case4 c rest feed return' empty ih =>
      rw [lines, empty] at member
      · obtain rfl := List.mem_singleton.mp member
        simpa [eq_comm] using feed
      · exact feed
      · exact return'
  | case5 c rest feed return' first later found ih =>
      rw [lines, found] at member
      · rcases List.mem_cons.mp member with rfl | member
        · have inner : '\n' ∉ first := ih (by rw [found]; exact List.mem_cons_self)
          simp only [List.mem_cons, not_or]
          exact ⟨fun same => feed same.symm, inner⟩
        · exact ih (by rw [found]; exact List.mem_cons_of_mem _ member)
      · exact feed
      · exact return'

-----------------------------------------------------------------------------------------
-- Bytes
-----------------------------------------------------------------------------------------

/-- `str::len`. -/
def utf8Len (text : List Char) : Nat := (text.map Char.utf8Size).sum

@[simp] theorem utf8Len_cons (c : Char) (text : List Char)
    : utf8Len (c :: text) = c.utf8Size + utf8Len text :=
  rfl

/-- The text before a byte, where that byte starts a character or ends the text. -/
def takeBytes : Nat → List Char → Option (List Char)
  | 0, _ => some []
  | _, [] => none
  | size, c :: text =>
      if c.utf8Size ≤ size then (takeBytes (size - c.utf8Size) text).map (c :: ·) else none

/-- The text from a byte on, where that byte starts a character or ends the text. -/
def dropBytes : Nat → List Char → Option (List Char)
  | 0, text => some text
  | _, [] => none
  | size, c :: text => if c.utf8Size ≤ size then dropBytes (size - c.utf8Size) text else none

/-- `str::is_char_boundary`. -/
def isCharBoundary (text : List Char) (size : Nat) : Bool := (takeBytes size text).isSome

theorem isSome_dropBytes (size : Nat) (text : List Char)
    : (dropBytes size text).isSome = isCharBoundary text size := by
  unfold isCharBoundary
  induction text generalizing size with
  | nil => cases size <;> rfl
  | cons c text ih =>
      cases size with
      | zero => rfl
      | succ size =>
          rw [dropBytes, takeBytes]
          · split
            next => rw [ih, Option.isSome_map]
            next => rfl
          · exact Nat.succ_ne_zero size
          · exact Nat.succ_ne_zero size

/-- What is taken is a part of the text of that size. -/
theorem takeBytes_eq_some {size : Nat} {text taken : List Char}
    (cut : takeBytes size text = some taken)
    : taken <+: text ∧ utf8Len taken = size := by
  induction text generalizing size taken with
  | nil =>
      cases size with
      | zero =>
          obtain rfl := Option.some.inj cut
          exact ⟨List.prefix_refl _, rfl⟩
      | succ size => cases cut
  | cons c text ih =>
      cases size with
      | zero =>
          obtain rfl := Option.some.inj cut
          exact ⟨List.nil_prefix, rfl⟩
      | succ size =>
          rw [takeBytes] at cut
          · split at cut
            next fits =>
              obtain ⟨later, taken, rfl⟩ := Option.map_eq_some_iff.mp cut
              obtain ⟨part, long⟩ := ih taken
              exact ⟨(List.prefix_cons_inj c).mpr part, by rw [utf8Len_cons, long]; omega⟩
            next => cases cut
          · exact Nat.succ_ne_zero size

end CtxRemote.Library
