import ChangeTracking.Counter.RenderLoop
import Mathlib.Data.List.Basic

namespace ChangeTracking

theorem isDigit_of_mem_toString {number : Nat} {char : Char}
    (member : char ∈ (toString number).toList) : char.isDigit = true := by
  rw [Nat.toString_eq_repr, Nat.toList_repr] at member
  exact Nat.isDigit_of_mem_toDigits (by decide) (by decide) member

theorem toString_inj {left right : Nat} (same : toString left = toString right) : left = right := by
  have digits : Nat.toDigits 10 left = Nat.toDigits 10 right := by
    simpa using congrArg String.toList same
  have back (number : Nat) : Nat.ofDigitChars 10 (Nat.toDigits 10 number) 0 = number :=
    Nat.ofDigitChars_toDigits (by decide) (by decide)
  rw [← back left, digits, back]

namespace RenderLoop

/-- The frames in a text: what stands behind the number in each complete line. -/
def frames (text : String) : List String :=
  ((text.toList.splitOn '\n').dropLast).map fun line =>
    String.ofList ((line.dropWhile (· ≠ ':')).drop 2)

/-- The text of lines, given by their numbers and frames. -/
def transcript : List (UInt32 × String) → String
  | [] => ""
  | entry :: rest => line entry.1 entry.2 ++ transcript rest

theorem transcript_concat (lines : List (UInt32 × String)) (number : UInt32) (frame : String) :
    transcript (lines ++ [(number, frame)]) = transcript lines ++ line number frame := by
  induction lines with
  | nil => simp [transcript]
  | cons entry rest ih => rw [List.cons_append, transcript, ih, transcript, String.append_assoc]

private def heading (number : UInt32) : List Char :=
  "render #".toList ++ (toString number.toNat).toList

private theorem not_mem_heading {number : UInt32} {char : Char} (special : char = ':' ∨ char = '\n') :
    char ∉ heading number := by
  intro member
  rcases List.mem_append.mp member with word | digit
  · rcases special with rfl | rfl <;> exact absurd word (by decide)
  · have plain := isDigit_of_mem_toString digit
    rcases special with rfl | rfl <;> exact absurd plain (by decide)

private theorem toList_line (number : UInt32) (frame rest : String) :
    (line number frame ++ rest).toList =
      (heading number ++ ':' :: ' ' :: frame.toList) ++ '\n' :: rest.toList := by
  have colon : ": ".toList = [':', ' '] := rfl
  have newline : "\n".toList = ['\n'] := rfl
  have shown : toString number = toString number.toNat := rfl
  unfold line heading
  simp only [shown, String.toList_append, colon, newline]
  -- Literals are kept from being computed.
  generalize "render #".toList = word, (toString number.toNat).toList = digits
  simp only [List.append_assoc, List.cons_append, List.nil_append]

/-- The frames can be read off the text. -/
theorem frames_transcript {lines : List (UInt32 × String)}
    (single : ∀ entry ∈ lines, '\n' ∉ entry.2.toList) :
    frames (transcript lines) = lines.map (·.2) := by
  induction lines with
  | nil => rfl
  | cons entry rest ih =>
    obtain ⟨number, frame⟩ := entry
    have inside : '\n' ∉ heading number ++ ':' :: ' ' :: frame.toList := by
      have fits : '\n' ∉ frame.toList := single (number, frame) (by simp)
      simpa [fits] using not_mem_heading (.inr rfl)
    have skipped : (heading number ++ ':' :: ' ' :: frame.toList).dropWhile (· ≠ ':') =
        ':' :: ' ' :: frame.toList := by
      rw [List.dropWhile_append_of_pos]
      · simp
      · intro char member
        exact decide_eq_true fun same => not_mem_heading (.inl same) member
    rw [frames, transcript, toList_line, List.splitOn_append_cons_self_of_not_mem inside,
      List.dropLast_cons_of_ne_nil (List.splitOn_ne_nil _ _), List.map_cons, skipped]
    simp only [List.drop_succ_cons, List.drop_zero, String.ofList_toList, List.map_cons]
    exact congrArg _ (ih fun other member => single other (by simp [member]))

example : frames "render #1: count=0\nrender #2: count=1\n" = ["count=0", "count=1"] := by
  decide +kernel

end RenderLoop

namespace Quoted

/-- Text whose characters all stand as they are. -/
def Plain (text : String) : Prop := ∀ char ∈ text.toList, writtenChar char = [char]

theorem encode_of_plain {text : String} (plain : Plain text) :
    encode text = "\"" ++ text ++ "\"" := by
  have same : text.toList.flatMap writtenChar = text.toList := by
    rw [List.flatMap_congr plain, List.flatMap_singleton']
  rw [encode, same, String.ofList_toList]

theorem writtenChar_of_isDigit {char : Char} (digit : char.isDigit = true) :
    writtenChar char = [char] := by
  have all : ∀ place < 10, writtenChar (Char.ofNat (48 + place)) = [Char.ofNat (48 + place)] := by
    decide +kernel
  obtain ⟨least, most⟩ := Char.isDigit_iff_toNat.mp digit
  have least : 48 ≤ char.toNat := least
  have most : char.toNat ≤ 57 := most
  have plain := all (char.toNat - 48) (by omega)
  rwa [Nat.add_sub_cancel' least, Char.ofNat_toNat] at plain

end Quoted

namespace Counter

/-- A counter as a run leaves it: it holds a number, and no name or a numbered one. -/
structure Regular (counter : Counter) : Prop where
  count : ∃ number : Nat, counter.count = number
  name : counter.name = "" ∨ ∃ number : Nat, counter.name = "n" ++ toString number

theorem plain_numbered (number : Nat) : Quoted.Plain ("n" ++ toString number) := by
  intro char member
  rw [String.toList_append] at member
  rcases List.mem_append.mp member with letter | digit
  · obtain rfl : char = 'n' := by simpa using letter
    decide +kernel
  · exact Quoted.writtenChar_of_isDigit (isDigit_of_mem_toString digit)

theorem Regular.plain {counter : Counter} (regular : counter.Regular) :
    Quoted.Plain counter.name := by
  rcases regular.name with empty | ⟨number, numbered⟩
  · rw [empty]
    exact fun char member => absurd member (by simp)
  · exact numbered ▸ plain_numbered number

theorem countText_inj {left right : Nat} (same : countText left = countText right) : left = right :=
  toString_inj ((String.append_right_inj _).mp same)

theorem nameText_inj {left right : String} (one : Quoted.Plain left) (other : Quoted.Plain right)
    (same : nameText left = nameText right) : left = right := by
  rw [nameText, nameText, Quoted.encode_of_plain one, Quoted.encode_of_plain other,
    String.append_right_inj, String.append_left_inj, String.append_right_inj] at same
  exact same

theorem Regular.single {counter : Counter} (regular : counter.Regular) (mode : RenderMode) :
    '\n' ∉ (counter.frame mode).toList := by
  obtain ⟨number, same⟩ := regular.count
  have count : '\n' ∉ (countText counter.count).toList := by
    rw [same, countText, String.toList_append]
    refine List.not_mem_append (by decide) fun digit => ?_
    exact absurd (isDigit_of_mem_toString digit) (by decide)
  have name : '\n' ∉ (nameText counter.name).toList := by
    rw [nameText, Quoted.encode_of_plain regular.plain]
    simp only [String.toList_append, List.mem_append, not_or]
    refine ⟨by decide, ⟨by decide, fun inside => ?_⟩, by decide⟩
    exact absurd (regular.plain _ inside) (by decide)
  cases mode with
  | count => exact count
  | name => exact name
  | both =>
    simp only [frame, String.toList_append, List.mem_append, not_or]
    exact ⟨⟨count, by decide⟩, name⟩

end Counter
end ChangeTracking
