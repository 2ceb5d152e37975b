import CloudPlay.ControlIds
import CloudPlay.GamepadState

/-!
# What the text of a gamepad says

The text that is sent to the host holds the bits of the buttons and the six analog
controls. Two states with the same text are the same state.
-/

set_option autoImplicit false

namespace CloudPlay.GamepadTexts
open GamepadState

section Numbers

theorem nat_no_space (n : ℕ) : ' ' ∉ (toString n).toList := by
  intro h
  rw [Nat.toString_eq_repr, Nat.toList_repr] at h
  exact absurd (ControlIds.toDigits_digits n _ h) (by decide)

theorem int_no_space (n : ℤ) : ' ' ∉ (toString n).toList := by
  intro h
  rw [Int.toString_eq_repr, Int.repr_eq_if] at h
  split at h
  · exact nat_no_space _ (by rwa [Nat.toString_eq_repr])
  · rw [String.toList_append, List.mem_append] at h
    rcases h with h | h
    · exact absurd h (by decide)
    · exact nat_no_space _ (by rwa [Nat.toString_eq_repr])

theorem nat_toString_injective {n m : ℕ} (h : toString n = toString m) : n = m := by
  have hchars := congrArg String.toList h
  rw [Nat.toString_eq_repr, Nat.toString_eq_repr, Nat.toList_repr, Nat.toList_repr] at hchars
  have hvalues := congrArg (Nat.ofDigitChars 10 · 0) hchars
  rwa [Nat.ofDigitChars_ten_toDigits, Nat.ofDigitChars_ten_toDigits] at hvalues

end Numbers

/-- The parts of a text joined by spaces are the parts of nothing else. -/
theorem intercalate_injective {parts parts' : List String} (hne : parts ≠ []) (hne' : parts' ≠ [])
    (h : ∀ part ∈ parts, ' ' ∉ part.toList) (h' : ∀ part ∈ parts', ' ' ∉ part.toList)
    (heq : " ".intercalate parts = " ".intercalate parts') : parts = parts' := by
  have hlists : [' '].intercalate (parts.map String.toList) =
      [' '].intercalate (parts'.map String.toList) := by
    have hchars := congrArg String.toList heq
    rwa [String.toList_intercalate, String.toList_intercalate] at hchars
  have hsplit := congrArg (List.splitOn ' ') hlists
  rw [List.splitOn_intercalate, List.splitOn_intercalate] at hsplit
  · exact List.map_injective_iff.mpr (fun _ _ => String.toList_inj.mp) hsplit
  · simpa using h'
  · simpa using hne'
  · simpa using h
  · simpa using hne

section Words
variable {s t : CGamepadState}

theorem testBit_word (bits : List (Button × ℕ)) (down : Button → Bool) (word k : ℕ) :
    (bits.foldl (fun word bit => if down bit.1 then word ||| bit.2 else word) word).testBit k =
      (word.testBit k || bits.any fun bit => down bit.1 && bit.2.testBit k) := by
  induction bits generalizing word with
  | nil => simp
  | cons bit bits ih =>
    rw [List.foldl_cons, ih, List.any_cons]
    cases down bit.1 <;> simp [Nat.testBit_or, Bool.or_assoc]

def Button.bit : Button → ℕ
  | .dpadUp => 0 | .dpadDown => 1 | .dpadLeft => 2 | .dpadRight => 3 | .start => 4 | .back => 5
  | .leftThumb => 6 | .rightThumb => 7 | .leftShoulder => 8 | .rightShoulder => 9 | .a => 12
  | .b => 13 | .x => 14 | .y => 15

/-- Each button has a bit of its own. -/
theorem word_button (s : CGamepadState) (button : Button) :
    s.word.testBit (Button.bit button) = s.buttonDown button := by
  rw [CGamepadState.word, testBit_word]
  cases button <;> simp [buttonBits, Button.bit, Nat.testBit_eq_decide_div_mod_eq]

def parts (s : CGamepadState) : List String :=
  [toString s.word, toString (s.analogs .bLeftTrigger), toString (s.analogs .bRightTrigger),
    toString (s.analogs .sThumbLX), toString (s.analogs .sThumbLY),
    toString (s.analogs .sThumbRX), toString (s.analogs .sThumbRY)]

theorem parts_no_space (s : CGamepadState) : ∀ part ∈ parts s, ' ' ∉ part.toList := by
  rw [parts, List.forall_mem_cons]
  refine ⟨nat_no_space s.word,?_⟩
  simp only [List.forall_mem_cons, int_no_space, not_false_eq_true, true_and]
  exact fun _ h => nomatch h

theorem getStateString_injective (h : s.getStateString = t.getStateString) : s = t := by
  have hparts : parts s = parts t := intercalate_injective (List.cons_ne_nil _ _)
    (List.cons_ne_nil _ _) (parts_no_space s) (parts_no_space t) h
  simp only [parts, List.cons.injEq, and_true] at hparts
  obtain ⟨hword, hlt, hrt, hlx, hly, hrx, hry⟩ := hparts
  have hbuttons : s.buttonDown = t.buttonDown := by
    funext button
    rw [← word_button, nat_toString_injective hword, word_button]
  have hanalogs : s.analogs = t.analogs := by
    funext a
    cases a with
    | bLeftTrigger => exact ControlIds.toString_injective hlt
    | bRightTrigger => exact ControlIds.toString_injective hrt
    | sThumbLX => exact ControlIds.toString_injective hlx
    | sThumbLY => exact ControlIds.toString_injective hly
    | sThumbRX => exact ControlIds.toString_injective hrx
    | sThumbRY => exact ControlIds.toString_injective hry
  cases s
  cases t
  exact congrArg₂ CGamepadState.mk hbuttons hanalogs

end Words

end CloudPlay.GamepadTexts
