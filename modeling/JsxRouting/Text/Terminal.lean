namespace JsxRouting

/-- The characters between the opening bracket of a control sequence and the letter that ends it. -/
def isParameter (c : Char) : Bool := c == ';' || c == '?' || ('0' ≤ c && c ≤ '9')

/-- Reads a control sequence behind its escape character: what follows it, if it is one. -/
def afterControl? : List Char → Option (List Char)
  | '[' :: rest =>
    match rest.dropWhile isParameter with
    | letter :: after => if letter.isAlpha then some after else none
    | [] => none
  | _ => none

theorem length_afterControl {text after : List Char} (found : afterControl? text = some after) :
    after.length < text.length := by
  unfold afterControl? at found
  split at found
  · rename_i rest
    have shorter := (List.dropWhile_sublist isParameter (l := rest)).length_le
    split at found
    · rename_i letter next dropped
      rw [dropped] at shorter
      split at found
      · cases found
        simp only [List.length_cons] at *
        omega
      · cases found
    · cases found
  · cases found

/-- The text without its control sequences. Taking them out is done once: what then looks like a
control sequence stays. -/
def withoutControls : List Char → List Char
  | [] => []
  | c :: rest =>
    if c = '\x1b' then
      match _found : afterControl? rest with
      | some after => withoutControls after
      | none => c :: withoutControls rest
    else c :: withoutControls rest
termination_by text => text.length
decreasing_by
  · have shorter := length_afterControl _found
    simp only [List.length_cons]
    omega
  · simp
  · simp

end JsxRouting
