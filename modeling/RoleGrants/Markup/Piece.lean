/-!
# Pieces of marked-up text

Text for the console may hold tags in brackets: `[bold]` opens a style, `[/bold]` closes the last
one of that name and `[/]` the last one of all. A tag starts with a small letter, `#`, `/` or `@`
and holds no opening bracket; a bracket before anything else is text. A backslash before a tag makes
it text too, and two backslashes are one. `pieces` takes such a text apart.

`piecesFrom_plain` says that text without an opening bracket is one piece, so that it is written as
it stands.
-/

namespace RoleGrants.Markup

/-- A piece of marked-up text. The body of a tag is what stands in its brackets. -/
inductive Piece where
  | text (chars : List Char)
  | tag (body : List Char)
  deriving DecidableEq, Repr

/-- The characters up to a closing bracket, and the rest after it, if no bracket opens before. -/
def untilClosing : List Char → Option (List Char × List Char)
  | [] => none
  | ']' :: rest => some ([], rest)
  | '[' :: _ => none
  | c :: rest => (untilClosing rest).map fun (body, rest) => (c :: body, rest)

theorem length_of_untilClosing {cs body rest : List Char}
    (h : untilClosing cs = some (body, rest)) : rest.length < cs.length := by
  fun_induction untilClosing cs generalizing body with
  | case1 => cases h
  | case2 rest' => cases h; simp
  | case3 => cases h
  | case4 c rest' _ _ ih =>
    obtain ⟨⟨b, r⟩, hbr, heq⟩ := Option.map_eq_some_iff.1 h
    cases heq
    exact Nat.lt_succ_of_lt (ih hbr)

/-- The characters with which a tag may start. -/
def startsTag (c : Char) : Bool :=
  ('a' ≤ c && c ≤ 'z') || c == '#' || c == '/' || c == '@'

/-- A tag at the start of a text: its body and the text after it. -/
def tagAt? : List Char → Option (List Char × List Char)
  | '[' :: c :: cs =>
    if startsTag c then (untilClosing cs).map fun (body, rest) => (c :: body, rest) else none
  | _ => none

theorem length_of_tagAt? {cs body rest : List Char} (h : tagAt? cs = some (body, rest)) :
    rest.length < cs.length := by
  unfold tagAt? at h
  split at h
  · split at h
    · obtain ⟨⟨b, r⟩, hbr, heq⟩ := Option.map_eq_some_iff.1 h
      cases heq
      have := length_of_untilClosing hbr
      simp only [List.length_cons]
      omega
    · cases h
  · cases h

/-- A tag at the start of a text, behind any number of backslashes. -/
def escapedTagAt? (cs : List Char) : Option (Nat × List Char × List Char) :=
  (tagAt? (cs.dropWhile (· == '\\'))).map fun (body, rest) =>
    ((cs.takeWhile (· == '\\')).length, body, rest)

theorem length_of_escapedTagAt? {cs body rest : List Char} {slashes : Nat}
    (h : escapedTagAt? cs = some (slashes, body, rest)) : rest.length < cs.length := by
  obtain ⟨⟨b, r⟩, hbr, heq⟩ := Option.map_eq_some_iff.1 h
  cases heq
  exact Nat.lt_of_lt_of_le (length_of_tagAt? hbr) (List.dropWhile_sublist _).length_le

/-- What a tag behind backslashes stands for: half of them, and the tag, or its text if they are
odd in number. -/
def tagPieces (slashes : Nat) (body : List Char) : List Piece :=
  (if slashes < 2 then [] else [.text (List.replicate (slashes / 2) '\\')]) ++
    [if slashes % 2 == 1 then .text ('[' :: body ++ [']']) else .tag body]

/-- Text that has been read, as a piece, unless there is none. -/
def pending (read : List Char) : List Piece :=
  if read.isEmpty then [] else [.text read.reverse]

/-- Takes marked-up text apart. `read` holds, last character first, the text that precedes. -/
def piecesFrom (read : List Char) : List Char → List Piece
  | [] => pending read
  | c :: cs =>
    match _ : escapedTagAt? (c :: cs) with
    | some (slashes, body, rest) =>
      pending read ++ tagPieces slashes body ++ piecesFrom [] rest
    | none => piecesFrom (c :: read) cs
termination_by cs => cs.length
decreasing_by
  -- a tag is at least its two brackets, so what follows it is shorter
  · exact length_of_escapedTagAt? ‹_›
  · exact Nat.lt_succ_self _

theorem escapedTagAt?_eq_none {cs : List Char} (h : '[' ∉ cs) : escapedTagAt? cs = none := by
  have hd : '[' ∉ cs.dropWhile (· == '\\') := fun hm => h ((List.dropWhile_sublist _).mem hm)
  rw [escapedTagAt?, Option.map_eq_none_iff]
  unfold tagAt?
  split
  · next heq => exact absurd (heq ▸ List.mem_cons_self) hd
  · rfl

theorem piecesFrom_plain {read cs : List Char} (h : '[' ∉ cs) :
    piecesFrom read cs = pending (cs.reverse ++ read) := by
  induction cs generalizing read with
  | nil => simp [piecesFrom]
  | cons c cs ih =>
    unfold piecesFrom
    split
    · next heq => rw [escapedTagAt?_eq_none h] at heq; cases heq
    · rw [ih fun hm => h (List.mem_cons_of_mem _ hm)]
      simp

/-- Takes marked-up text apart. -/
def pieces (cs : List Char) : List Piece := piecesFrom [] cs

/-- A backslash before a bracket that opens no tag is dropped. -/
def unescape : List Char → List Char
  | '\\' :: '[' :: rest => '[' :: unescape rest
  | c :: rest => c :: unescape rest
  | [] => []

end RoleGrants.Markup
