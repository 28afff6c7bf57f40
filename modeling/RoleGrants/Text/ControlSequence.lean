/-!
# Control sequences

Colours and movements of a terminal are asked for by control sequences: the escape character with an
opening bracket, parameters from `0` to `?`, intermediate characters from the space to `/`, and a
final character from `@` to `~`. Where output goes to no terminal, whole sequences are left out.
-/

namespace RoleGrants.Text

def escapeChar : Char := '\x1b'

/-- Whether a character lies between two others, both included. -/
def isBetween (first last c : Char) : Bool := decide (first ≤ c ∧ c ≤ last)

/-- The parameters and intermediate characters at the start of a text are passed over. -/
def afterParameters (cs : List Char) : List Char :=
  (cs.dropWhile (isBetween '0' '?')).dropWhile (isBetween ' ' '/')

/-- What follows a control sequence at the start of a text, the escape character being read. -/
def afterSequence? : List Char → Option (List Char)
  | '[' :: cs =>
    match afterParameters cs with
    | c :: rest => if isBetween '@' '~' c then some rest else none
    | [] => none
  | _ => none

theorem length_afterParameters_le (cs : List Char) : (afterParameters cs).length ≤ cs.length :=
  ((List.dropWhile_sublist _).trans (List.dropWhile_sublist _)).length_le

theorem length_of_afterSequence? {cs rest : List Char} (h : afterSequence? cs = some rest) :
    rest.length < cs.length := by
  unfold afterSequence? at h
  split at h
  · next cs' =>
    split at h
    · next c rest' heq =>
      split at h
      · cases h
        have hle := length_afterParameters_le cs'
        rw [heq] at hle
        simp only [List.length_cons] at hle ⊢
        omega
      · cases h
    · cases h
  · cases h

/-- A text without its control sequences. -/
def withoutControlSequences : List Char → List Char
  | [] => []
  | c :: cs =>
    if c == escapeChar then
      match _ : afterSequence? cs with
      | some rest => withoutControlSequences rest
      | none => c :: withoutControlSequences cs
    else c :: withoutControlSequences cs
termination_by cs => cs.length
decreasing_by
  · exact Nat.lt_succ_of_lt (length_of_afterSequence? ‹_›)
  · exact Nat.lt_succ_self _
  · exact Nat.lt_succ_self _

end RoleGrants.Text
