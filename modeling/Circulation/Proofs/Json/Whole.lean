/- # Circulation.Proofs.Json.Whole -- an object has one end

Once the brace of an object is open, the machine has something on its stack until the tree is complete,
and from then on it takes white space and nothing else (`Committed`). A numeral may end in many places,
but an object ends in one: where two texts begin with the same brace and one of them goes on behind the
other, it goes on with white space (`spaces_of_read?`). So no text of an object can be cut short.
-/
import Circulation.Proofs.Json.Reading

namespace Circulation.Json

namespace Reader

variable {r r' : Reader} {stack : List Frame}

/-- Something is still open, or the tree is complete. -/
def Committed (r : Reader) : Prop := r.stack ≠ [] ∨ ∃ tree, r.mode = .finished tree

/-! ## One byte -/

/-- Wherever this leads, the machine is committed there. -/
def Commits (x : Option Reader) : Prop := ∀ r, x = some r → r.Committed

namespace Commits

theorem none : Commits none := by
  intro r h
  cases h

theorem of_open {mode : Mode} (open_ : stack ≠ []) : Commits (some ⟨mode, stack⟩) := by
  intro r h
  cases h
  exact .inl open_

theorem ite {c : Prop} [Decidable c] {x y : Option Reader} (hx : Commits x) (hy : Commits y) :
    Commits (if c then x else y) := by
  split
  · exact hx
  · exact hy

end Commits

theorem commits_complete (v : Json) (stack : List Frame) : Commits (complete v stack) := by
  intro r h
  match stack, h with
  | [], rfl => exact .inr ⟨v, rfl⟩
  | .array _ :: _, rfl => exact .inl (List.cons_ne_nil _ _)
  | .member _ _ :: _, rfl => exact .inl (List.cons_ne_nil _ _)

theorem commits_closeOrContinue (stack : List Frame) (b : UInt8) :
    Commits (closeOrContinue stack b) := by
  have goesOn : ∀ {mode : Mode} {frame : Frame} {rest : List Frame},
      Commits (some ⟨mode, frame :: rest⟩) := .of_open (List.cons_ne_nil _ _)
  match stack with
  | [] => exact .none
  | .array done :: rest => exact goesOn.ite ((commits_complete _ rest).ite .none)
  | .object done :: rest => exact goesOn.ite ((commits_complete _ rest).ite .none)
  | .member _ _ :: _ => exact .none

/-- The first byte of a value leaves open what is open. -/
theorem commits_openValue (open_ : stack ≠ []) (b : UInt8) : Commits (openValue stack b) := by
  have opens : ∀ {mode : Mode} {frame : Frame}, Commits (some ⟨mode, frame :: stack⟩) :=
    .of_open (List.cons_ne_nil _ _)
  have stays : ∀ {mode : Mode}, Commits (some ⟨mode, stack⟩) := .of_open open_
  unfold openValue
  refine stays.ite (opens.ite (opens.ite ?_))
  exact stays.ite (stays.ite (stays.ite (stays.ite (stays.ite (stays.ite .none)))))

theorem commits_insideString (open_ : stack ≠ []) (role : Role) (escape : Escape) (done : Bytes)
    (b : UInt8) : Commits (insideString stack role escape done b) := by
  have stays : ∀ {mode : Mode}, Commits (some ⟨mode, stack⟩) := .of_open open_
  cases escape with
  | none =>
    refine Commits.ite ?_ (stays.ite (Commits.none.ite stays))
    cases role with
    | key => exact stays
    | value => exact commits_complete _ stack
  | opened => exact stays.ite (stays.ite .none)
  | hex missing => exact stays.ite .none

/-- As long as something is open, every byte leaves something open or completes the tree. -/
theorem commits_step {mode : Mode} (open_ : stack ≠ []) (b : UInt8) :
    Commits ((Reader.mk mode stack).step b) := by
  have stays : ∀ {mode : Mode}, Commits (some ⟨mode, stack⟩) := .of_open open_
  have closes := commits_closeOrContinue stack b
  have opens := commits_openValue open_ b
  cases mode with
  | value => exact stays.ite opens
  | firstElement => exact stays.ite (closes.ite opens)
  | firstKey => exact stays.ite (closes.ite (stays.ite .none))
  | key => exact stays.ite (stays.ite .none)
  | colon key =>
    refine stays.ite (Commits.ite ?_ .none)
    match stack with
    | [] => exact .none
    | .object done :: rest => exact .of_open (List.cons_ne_nil _ _)
    | .array _ :: _ => exact .none
    | .member _ _ :: _ => exact .none
  | string role escape done => exact commits_insideString open_ role escape done b
  | number part done =>
    simp only [step]
    cases part.next? b with
    | some part' => exact stays
    | none =>
      refine Commits.ite ?_ .none
      -- The numeral ended before this byte, and the byte is taken behind its value.
      intro r h
      obtain ⟨behind, ended, h⟩ := Option.bind_eq_some_iff.mp h
      have past : Commits (some behind) := by
        intro r same
        cases same
        exact commits_complete _ stack behind ended
      exact past.ite (commits_closeOrContinue behind.stack b) r h
  | word rest denoted =>
    cases rest with
    | nil => exact .none
    | cons c more => exact ((commits_complete denoted stack).ite stays).ite .none
  | afterValue => exact stays.ite closes
  | finished tree => exact stays.ite .none

/-! ## Runs -/

theorem Committed.step (c : r.Committed) (b : UInt8) : Commits (r.step b) := by
  rcases c with open_ | ⟨tree, ended⟩
  · exact commits_step open_ b
  · have here : Commits (some r) := by
      intro r' same
      cases same
      exact .inr ⟨tree, ended⟩
    simp only [Reader.step, ended]
    exact here.ite .none

theorem Committed.run (c : r.Committed) {bytes : Bytes} (h : r.run bytes = some r') :
    r'.Committed := by
  induction bytes generalizing r with
  | nil =>
    cases h
    exact c
  | cons b bytes ih =>
    rw [run_cons] at h
    obtain ⟨next, first, rest⟩ := Option.bind_eq_some_iff.mp h
    exact ih (c.step b next first) rest

/-- A text may end only where the tree is complete. -/
theorem Committed.finished (c : r.Committed) {tree : Json} (h : r.finish = some tree) :
    r.mode = .finished tree := by
  obtain ⟨mode, stack⟩ := r
  rcases c with open_ | ⟨t, ended⟩
  · cases mode with
    | finished t =>
      cases h
      rfl
    | number part done =>
      cases stack with
      | nil => exact absurd rfl open_
      | cons frame rest => cases h
    | _ => cases h
  · cases ended
    cases h
    rfl

end Reader

/-! ## Texts of objects -/

/-- If a text that begins with a brace goes on behind another one, it goes on with white space. -/
theorem spaces_of_read? {inside more : Bytes} {tree tree' : Json}
    (ends : read? (0x7B :: inside) = some tree)
    (goesOn : read? (0x7B :: inside ++ more) = some tree') : Spaces more := by
  have opened : Reader.start.step 0x7B = some ⟨.firstKey, [.object []]⟩ := rfl
  have begun : (Reader.mk .firstKey [.object []]).Committed := .inl (List.cons_ne_nil _ _)
  obtain ⟨r, run, finish⟩ := Option.bind_eq_some_iff.mp ends
  obtain ⟨r', run', -⟩ := Option.bind_eq_some_iff.mp goesOn
  have ended : r.mode = .finished tree := by
    rw [Reader.run_step opened] at run
    exact (begun.run run).finished finish
  rw [Reader.run_append, run, Option.bind_some] at run'
  obtain ⟨mode, stack⟩ := r
  cases ended
  rw [Reader.run_finished] at run'
  split at run'
  next blank => exact List.all_eq_true.mp blank
  next => cases run'

/-- A text between braces that could be read cannot be read when its end is missing. -/
theorem read?_of_cut {kept lost inside : Bytes} {tree : Json}
    (whole : read? (0x7B :: inside ++ [0x7D]) = some tree)
    (cut : 0x7B :: inside ++ [0x7D] = kept ++ lost) (some_ : lost ≠ []) : read? kept = none := by
  cases kept with
  | nil => rfl
  | cons b kept =>
    obtain rfl : b = 0x7B := (List.cons.inj cut).1.symm
    cases here : read? (0x7B :: kept) with
    | none => rfl
    | some tree' =>
      rw [cut] at whole
      have blank : Spaces lost := spaces_of_read? here whole
      -- What is missing ends with the brace.
      have last : 0x7D ∈ lost := by
        rcases List.eq_nil_or_concat lost with rfl | ⟨before, b, rfl⟩
        · exact absurd rfl some_
        · rw [List.concat_eq_append] at cut ⊢
          rw [← List.append_assoc] at cut
          have same : [0x7D] = [b] := List.append_inj_right' cut rfl
          exact List.mem_append_right before (same ▸ List.mem_singleton_self 0x7D)
      exact absurd (blank 0x7D last) (by decide)

end Circulation.Json
