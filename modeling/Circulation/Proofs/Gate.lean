/- # Circulation.Proofs.Gate -- the line before a gate

What visitors do at a gate is noted as it can be seen from outside: who came, who gave up waiting, who
parted from the gate, and to whom it went. Who holds the gate and who waits can be read off the notes
(`inside_iff`, `inLine_iff`), so what is true of the notes of every run is true of the history of the
gate: it goes to somebody who waits, when nobody has it, and before it goes to anybody, whoever came
earlier has had it or has given up (`Fair`).

A step of the gate writes at most three notes. `Goes` says what one note changes, `Written` follows the
notes from the beginning, and the laws are proved of `Written`, where each has one case for each note.
What a pool does with its gate are steps of this kind (`Pool.Orderly.gate_of_run`).
-/
import Mathlib.Tactic.ByContra
import Circulation.Proofs.Pool.Passage

namespace Circulation

namespace Gate

variable {ι : Type}

/-! ## Notes -/

/-- What can be seen of a visit. -/
inductive Entry (ι : Type) where
  | came (who : ι)
  | obtained (who : ι)
  | gaveUp (who : ι)
  | parted (who : ι)
deriving DecidableEq

/-- The first was noted, and since then nothing that ends it. -/
def Since (start : Entry ι) (ends : List (Entry ι)) (notes : List (Entry ι)) : Prop :=
  ∃ before after, notes = before ++ start :: after ∧ ∀ e ∈ ends, e ∉ after

/-- By the notes this one has obtained the gate and not parted from it. -/
def Inside (notes : List (Entry ι)) (who : ι) : Prop := Since (.obtained who) [.parted who] notes

/-- By the notes this one has come, and neither obtained the gate nor given up. -/
def InLine (notes : List (Entry ι)) (who : ι) : Prop :=
  Since (.came who) [.obtained who, .gaveUp who] notes

/-- By the notes the first one is in line, and the second one has come since. -/
def Ahead (notes : List (Entry ι)) (first second : ι) : Prop :=
  ∃ before after, notes = before ++ .came first :: after ∧
    (∀ e ∈ [Entry.obtained first, .gaveUp first], e ∉ after) ∧ .came second ∈ after

/-- One entry stands last, or the last one stands behind it. -/
theorem snoc_eq_cut {notes before after : List (Entry ι)} {e start : Entry ι} :
    notes ++ [e] = before ++ start :: after ↔
      (after = [] ∧ notes = before ∧ e = start) ∨
        ∃ rest, after = rest ++ [e] ∧ notes = before ++ start :: rest := by
  constructor
  · intro cut
    rcases List.eq_nil_or_concat after with rfl | ⟨rest, last, rfl⟩
    · obtain ⟨same, ends⟩ := List.append_inj' cut rfl
      exact .inl ⟨rfl, same, (List.cons.inj ends).1⟩
    · rw [List.concat_eq_append, ← List.cons_append, ← List.append_assoc] at cut
      obtain ⟨same, ends⟩ := List.append_inj' cut rfl
      rw [List.concat_eq_append, ← (List.cons.inj ends).1]
      exact .inr ⟨rest, rfl, same⟩
  · rintro (⟨rfl, rfl, rfl⟩ | ⟨rest, rfl, rfl⟩)
    · rfl
    · simp

theorem since_snoc {start e : Entry ι} {ends notes : List (Entry ι)} :
    Since start ends (notes ++ [e]) ↔ e = start ∨ (Since start ends notes ∧ e ∉ ends) := by
  constructor
  · rintro ⟨before, after, cut, none_⟩
    rcases snoc_eq_cut.mp cut with ⟨-, -, same⟩ | ⟨rest, rfl, earlier⟩
    · exact .inl same
    · refine .inr ⟨⟨before, rest, earlier, ?_⟩, ?_⟩
      · exact fun x mem there => none_ x mem (List.mem_append_left _ there)
      · exact fun mem => none_ e mem (List.mem_append_right _ (List.mem_singleton_self e))
  · rintro (rfl | ⟨⟨before, after, rfl, none_⟩, other⟩)
    · exact ⟨notes, [], rfl, fun _ _ => List.not_mem_nil⟩
    · refine ⟨before, after ++ [e], by simp, ?_⟩
      intro x mem there
      rcases List.mem_append.mp there with there | last
      · exact none_ x mem there
      · exact other (List.mem_singleton.mp last ▸ mem)

theorem not_since_nil {start : Entry ι} {ends : List (Entry ι)} : ¬Since start ends [] := by
  rintro ⟨before, after, cut, -⟩
  simp at cut

/-- Who is in line, and has obtained the gate before, has come again. -/
theorem came_between {before between : List (Entry ι)} {who : ι}
    (h : InLine (before ++ .obtained who :: between) who) : .came who ∈ between := by
  obtain ⟨start, since, cut, none_⟩ := h
  rcases List.append_eq_append_iff.mp cut with ⟨mid, -, rest⟩ | ⟨mid, -, rest⟩
  · cases mid with
    | nil => cases rest
    | cons _ mid =>
      obtain ⟨-, rfl⟩ := List.cons.inj rest
      exact List.mem_append_right mid List.mem_cons_self
  · cases mid with
    | nil => cases rest
    | cons _ mid =>
      obtain ⟨-, rfl⟩ := List.cons.inj rest
      exact absurd (List.mem_append_right mid List.mem_cons_self) (none_ _ List.mem_cons_self)

theorem Ahead.inLine {notes : List (Entry ι)} {first second : ι} (h : Ahead notes first second) :
    InLine notes first := by
  obtain ⟨before, after, cut, none_, -⟩ := h
  exact ⟨before, after, cut, none_⟩

theorem Ahead.of_snoc {notes : List (Entry ι)} {e : Entry ι} {first second : ι}
    (h : Ahead (notes ++ [e]) first second) :
    e ≠ .obtained first ∧ e ≠ .gaveUp first ∧
      (Ahead notes first second ∨ (e = .came second ∧ InLine notes first)) := by
  obtain ⟨before, after, cut, none_, later⟩ := h
  rcases snoc_eq_cut.mp cut with ⟨rfl, -, -⟩ | ⟨rest, rfl, earlier⟩
  · exact absurd later List.not_mem_nil
  · have last : e ∈ rest ++ [e] := List.mem_append_right _ (List.mem_singleton_self e)
    have kept : ∀ x ∈ [Entry.obtained first, .gaveUp first], x ∉ rest :=
      fun x mem there => none_ x mem (List.mem_append_left _ there)
    refine ⟨?_, ?_, ?_⟩
    · rintro rfl
      exact none_ _ List.mem_cons_self last
    · rintro rfl
      exact none_ _ (List.mem_cons_of_mem _ List.mem_cons_self) last
    · rcases List.mem_append.mp later with there | same
      · exact .inl ⟨before, rest, earlier, kept, there⟩
      · exact .inr ⟨(List.mem_singleton.mp same).symm, before, rest, earlier, kept⟩

variable [DecidableEq ι]

/-- To whom the gate went, if it went to somebody. -/
def handedOn (before after : Gate ι) : List (Entry ι) :=
  if after.holder = before.holder then [] else (after.holder.map .obtained).toList

/-- What is noted of a step, by its answer and by who holds the gate after it. -/
def noted (g : Gate ι) (s : Step ι) : List (Entry ι) :=
  let (answer, after) := g.step s
  match s, answer with
  | .acquire who, .ok => .came who :: g.handedOn after
  | .cancel who, .ok => .gaveUp who :: g.handedOn after
  | .release who, .ok => .parted who :: g.handedOn after
  | .goWrong who _, .wentWrong _ => .parted who :: g.handedOn after
  | .fail who _, .wentWrong _ => [.came who, .obtained who, .parted who]
  | _, _ => g.handedOn after

/-- What is noted of a sequence of steps, in order. -/
def log (g : Gate ι) : List (Step ι) → List (Entry ι)
  | [] => []
  | s :: rest => g.noted s ++ (g.step s).2.log rest

/-! ## One note -/

/-- What a gate is like after a note, which may leave it without a holder for a moment. -/
inductive Goes : Gate ι → Entry ι → Gate ι → Prop
  | came {g : Gate ι} {who : ι} (away : g.holder ≠ some who) (absent : who ∉ g.waiting) :
      Goes g (.came who) ⟨g.holder, g.waiting ++ [who]⟩
  | obtained {who : ι} {waiting : List ι} : Goes ⟨none, who :: waiting⟩ (.obtained who) ⟨some who, waiting⟩
  | gaveUp {g : Gate ι} {who : ι} (there : who ∈ g.waiting) : Goes g (.gaveUp who) (g.withdraw who)
  | parted {who : ι} {waiting : List ι} : Goes ⟨some who, waiting⟩ (.parted who) ⟨none, waiting⟩

/-- The notes of a gate from its beginning. -/
inductive Written : List (Entry ι) → Gate ι → Prop
  | nothing : Written [] empty
  | snoc {notes : List (Entry ι)} {e : Entry ι} {g g' : Gate ι} :
      Written notes g → Goes g e g' → Written (notes ++ [e]) g'

namespace Written

variable {notes : List (Entry ι)} {g : Gate ι}

/-- How the gate was when an entry was written. -/
theorem at_cut (w : Written notes g) {before after : List (Entry ι)} {e : Entry ι}
    (cut : notes = before ++ e :: after) : ∃ g₁ g₂, Written before g₁ ∧ Goes g₁ e g₂ := by
  induction w generalizing after with
  | nothing => simp at cut
  | snoc earlier goes ih =>
    rcases snoc_eq_cut.mp cut with ⟨-, rfl, rfl⟩ | ⟨rest, rfl, earlier_⟩
    · exact ⟨_, _, earlier, goes⟩
    · exact ih earlier_

/-- Nobody stands in line twice, and the holder does not stand there. -/
theorem single (w : Written notes g) :
    g.waiting.Nodup ∧ ∀ who, g.holder = some who → who ∉ g.waiting := by
  induction w with
  | nothing => exact ⟨.nil, fun _ _ => List.not_mem_nil⟩
  | snoc _ goes ih =>
    obtain ⟨once, apart⟩ := ih
    cases goes with
    | came away absent =>
      refine ⟨?_, ?_⟩
      · rw [List.nodup_append]
        refine ⟨once, List.nodup_cons.mpr ⟨List.not_mem_nil, .nil⟩, ?_⟩
        rintro a mem b last rfl
        exact absent (List.mem_singleton.mp last ▸ mem)
      · intro other holds mem
        rcases List.mem_append.mp mem with mem | last
        · exact apart other holds mem
        · exact away (List.mem_singleton.mp last ▸ holds)
    | obtained =>
      obtain ⟨first, once⟩ := List.nodup_cons.mp once
      refine ⟨once, ?_⟩
      rintro other ⟨⟩
      exact first
    | gaveUp there =>
      exact ⟨once.erase _, fun other holds mem => apart other holds (List.mem_of_mem_erase mem)⟩
    | parted =>
      refine ⟨once, ?_⟩
      rintro other ⟨⟩

/-- Who is inside by the notes holds the gate. -/
theorem inside_iff (w : Written notes g) (who : ι) : Inside notes who ↔ g.holder = some who := by
  unfold Inside
  induction w with
  | nothing => simp [not_since_nil, empty]
  | snoc _ goes ih =>
    rw [since_snoc, ih]
    cases goes with
    | came | obtained => simp
    | gaveUp => simp [withdraw]
    | @parted last waiting =>
      simp only [reduceCtorEq, false_or, List.mem_singleton, Entry.parted.injEq, iff_false, not_and]
      intro same other
      exact other (Option.some.inj same)

/-- Who is in line by the notes waits for the gate. -/
theorem inLine_iff (w : Written notes g) (who : ι) : InLine notes who ↔ who ∈ g.waiting := by
  unfold InLine
  induction w with
  | nothing => simp [not_since_nil, empty]
  | snoc earlier goes ih =>
    rw [since_snoc, ih]
    cases goes with
    | came => simp [or_comm, eq_comm]
    | @obtained first waiting =>
      have apart : first ∉ waiting := (List.nodup_cons.mp earlier.single.1).1
      simp only [reduceCtorEq, false_or, List.mem_cons, Entry.obtained.injEq, List.not_mem_nil,
        or_false]
      constructor
      · rintro ⟨rfl | mem, other⟩
        · exact absurd rfl other
        · exact mem
      · intro mem
        refine ⟨.inr mem, ?_⟩
        rintro rfl
        exact apart mem
    | gaveUp =>
      rw [withdraw, earlier.single.1.mem_erase_iff]
      simp [and_comm, eq_comm]
    | parted => simp

/-- Of two who wait, the one who came first stands first. -/
theorem sublist_of_ahead (w : Written notes g) {first second : ι} (h : Ahead notes first second)
    (waits : second ∈ g.waiting) : [first, second].Sublist g.waiting := by
  induction w with
  | nothing => exact absurd waits List.not_mem_nil
  | @snoc notes e g g' earlier goes ih =>
    obtain ⟨kept, stayed, before⟩ := h.of_snoc
    cases goes with
    | @came _ who away absent =>
      have there : first ∈ g.waiting := by
        rcases before with ahead | ⟨-, inLine⟩
        · exact (earlier.inLine_iff first).mp ahead.inLine
        · exact (earlier.inLine_iff first).mp inLine
      rcases List.mem_append.mp waits with mem | last
      · rcases before with ahead | ⟨same, -⟩
        · exact (ih ahead mem).trans (List.sublist_append_left _ _)
        · cases same
          exact absurd mem absent
      · obtain rfl : second = who := List.mem_singleton.mp last
        exact (List.singleton_sublist.mpr there).append (List.Sublist.refl [second])
    | @obtained who waiting =>
      rcases before with ahead | ⟨same, -⟩
      · cases ih ahead (List.mem_cons_of_mem who waits) with
        | cons _ rest => exact rest
        | cons_cons _ rest => exact absurd rfl kept
      · cases same
    | @gaveUp _ who there =>
      rcases before with ahead | ⟨same, -⟩
      · have mem : second ∈ g.waiting := List.mem_of_mem_erase waits
        have other : second ≠ who := (earlier.single.1.mem_erase_iff.mp waits).1
        have rest := (ih ahead mem).erase who
        have whole : [first, second].erase who = [first, second] := by
          apply List.erase_of_not_mem
          rintro gone
          rcases List.mem_cons.mp gone with rfl | gone
          · exact stayed rfl
          · exact other (List.mem_singleton.mp gone).symm
        rw [whole] at rest
        exact rest
      · cases same
    | parted =>
      rcases before with ahead | ⟨same, -⟩
      · exact ih ahead waits
      · cases same

end Written

/-! ## What the notes say -/

/-- The history that the notes of a gate tell. -/
structure Fair (notes : List (Entry ι)) : Prop where
  /-- Nobody comes who is there already. -/
  came : ∀ before who after, notes = before ++ .came who :: after →
    ¬Inside before who ∧ ¬InLine before who
  /-- The gate goes to somebody in line, when nobody has it. -/
  obtained : ∀ before who after, notes = before ++ .obtained who :: after →
    InLine before who ∧ ∀ other, ¬Inside before other
  /-- It goes to the one who came first of those who have not given up: before somebody has it, whoever
  came earlier has had it or has given up. -/
  inTurn : ∀ before first between second after,
    notes = before ++ .came first :: (between ++ .obtained second :: after) →
    .came second ∈ between → .obtained first ∈ between ∨ .gaveUp first ∈ between
  /-- It does not go to anybody twice for one coming. -/
  once : ∀ before who between after,
    notes = before ++ .obtained who :: (between ++ .obtained who :: after) → .came who ∈ between
  gaveUp : ∀ before who after, notes = before ++ .gaveUp who :: after → InLine before who
  parted : ∀ before who after, notes = before ++ .parted who :: after → Inside before who

theorem Written.fair {notes : List (Entry ι)} {g : Gate ι} (w : Written notes g) : Fair notes where
  came := by
    intro before who after cut
    obtain ⟨g₁, g₂, earlier, goes⟩ := w.at_cut cut
    cases goes with
    | came away absent =>
      rw [earlier.inside_iff, earlier.inLine_iff]
      exact ⟨away, absent⟩
  obtained := by
    intro before who after cut
    obtain ⟨g₁, g₂, earlier, goes⟩ := w.at_cut cut
    cases goes with
    | obtained =>
      refine ⟨(earlier.inLine_iff who).mpr List.mem_cons_self, ?_⟩
      intro other inside
      cases (earlier.inside_iff other).mp inside
  inTurn := by
    intro before first between second after cut later
    rw [← List.cons_append, ← List.append_assoc] at cut
    obtain ⟨g₁, g₂, earlier, goes⟩ := w.at_cut cut
    by_contra early
    obtain ⟨kept, stayed⟩ := not_or.mp early
    have ahead : Ahead (before ++ .came first :: between) first second := by
      refine ⟨before, between, rfl, ?_, later⟩
      simp [kept, stayed]
    cases goes with
    | @obtained _ waiting =>
      -- The second stands first in line, so nobody stands ahead of it.
      have apart : second ∉ waiting := (List.nodup_cons.mp earlier.single.1).1
      cases earlier.sublist_of_ahead ahead List.mem_cons_self with
      | cons _ rest => exact apart (rest.subset (by simp))
      | cons_cons _ rest => exact apart (rest.subset (by simp))
  once := by
    intro before who between after cut
    rw [← List.cons_append, ← List.append_assoc] at cut
    obtain ⟨g₁, g₂, earlier, goes⟩ := w.at_cut cut
    cases goes with
    | obtained => exact came_between ((earlier.inLine_iff who).mpr List.mem_cons_self)
  gaveUp := by
    intro before who after cut
    obtain ⟨g₁, g₂, earlier, goes⟩ := w.at_cut cut
    cases goes with
    | gaveUp there => exact (earlier.inLine_iff who).mpr there
  parted := by
    intro before who after cut
    obtain ⟨g₁, g₂, earlier, goes⟩ := w.at_cut cut
    cases goes with
    | parted => exact (earlier.inside_iff who).mpr rfl

/-! ## Runs -/

/-- The notes are those of the gate, and nobody waits before a free gate. -/
structure Kept (notes : List (Entry ι)) (g : Gate ι) : Prop where
  written : Written notes g
  attended : g.holder = none → g.waiting = []

namespace Kept

variable {notes : List (Entry ι)} {g : Gate ι}

theorem start : Kept [] (empty : Gate ι) := ⟨.nothing, fun _ => rfl⟩

/-- Nothing is noted of a step that leaves the gate as it was. -/
theorem stay (k : Kept notes g) : Kept (notes ++ g.handedOn g) g := by
  rw [handedOn, if_pos rfl, List.append_nil]
  exact k

/-- The holder parts, and the gate goes to the next in line. -/
theorem leave (k : Kept notes g) {who : ι} (holds : g.holder = some who) :
    Kept (notes ++ .parted who :: g.handedOn g.leave) g.leave := by
  obtain ⟨holder, waiting⟩ := g
  cases holds
  have free : Written (notes ++ [.parted who]) ⟨none, waiting⟩ := k.written.snoc .parted
  cases waiting with
  | nil => exact ⟨free, fun _ => rfl⟩
  | cons next rest =>
    have other : ¬some next = some who := by
      intro same
      exact k.written.single.2 who rfl (Option.some.inj same ▸ List.mem_cons_self)
    have handed : handedOn ⟨some who, next :: rest⟩ (leave ⟨some who, next :: rest⟩) =
        [.obtained next] := if_neg other
    rw [handed, List.append_cons]
    refine ⟨free.snoc .obtained, ?_⟩
    rintro ⟨⟩

/-- Who finds the gate free has it at once, and who finds it held stands last in line. -/
theorem enter (k : Kept notes g) {who : ι} (away : g.holder ≠ some who) (absent : who ∉ g.waiting) :
    Kept (notes ++ .came who :: g.handedOn (g.enter who)) (g.enter who) := by
  have came : Written (notes ++ [.came who]) ⟨g.holder, g.waiting ++ [who]⟩ :=
    k.written.snoc (.came away absent)
  obtain ⟨holder, waiting⟩ := g
  cases holder with
  | none =>
    obtain rfl : waiting = [] := k.attended rfl
    have handed : handedOn ⟨none, []⟩ (enter ⟨none, []⟩ who) = [.obtained who] := rfl
    rw [handed, List.append_cons]
    refine ⟨came.snoc .obtained, ?_⟩
    rintro ⟨⟩
  | some held =>
    have handed : handedOn ⟨some held, waiting⟩ (enter ⟨some held, waiting⟩ who) = [] := if_pos rfl
    rw [handed]
    refine ⟨came, ?_⟩
    rintro ⟨⟩

theorem withdraw (k : Kept notes g) {who : ι} (there : who ∈ g.waiting) :
    Kept (notes ++ .gaveUp who :: g.handedOn (g.withdraw who)) (g.withdraw who) := by
  have handed : g.handedOn (g.withdraw who) = [] := if_pos rfl
  rw [handed]
  refine ⟨k.written.snoc (.gaveUp there), ?_⟩
  intro free
  show g.waiting.erase who = []
  rw [k.attended free, List.erase_nil]

/-- Who takes the free gate and goes wrong leaves it free. -/
theorem fail (k : Kept notes g) (who : ι) (free : g.holder = none) :
    Kept (notes ++ [.came who, .obtained who, .parted who]) (g.enter who).leave := by
  have absent : who ∉ g.waiting := by
    rw [k.attended free]
    exact List.not_mem_nil
  have away : g.holder ≠ some who := by
    rw [free]
    rintro ⟨⟩
  obtain ⟨holder, waiting⟩ := g
  cases free
  obtain rfl : waiting = [] := k.attended rfl
  have gone := (k.enter away absent).leave rfl
  rw [List.append_assoc] at gone
  exact gone

/-- Every step keeps it. What is no step for this visitor changes nothing. -/
theorem step (k : Kept notes g) (s : Step ι) : Kept (notes ++ g.noted s) (g.step s).2 := by
  cases s with
  | acquire who =>
    by_cases there : (g.holds who || g.waits who) = true
    · simp only [noted, Gate.step, if_pos there]
      exact k.stay
    · simp only [noted, Gate.step, if_neg there]
      simp only [holds, waits, Bool.or_eq_true, beq_iff_eq, List.contains_iff_mem, not_or] at there
      exact k.enter there.1 there.2
  | release who | goWrong who how =>
    by_cases mine : g.holds who = true
    · simp only [noted, Gate.step, if_pos mine]
      exact k.leave (eq_of_beq mine)
    · simp only [noted, Gate.step, if_neg mine]
      exact k.stay
  | cancel who =>
    by_cases there : g.waits who = true
    · simp only [noted, Gate.step, if_pos there]
      exact k.withdraw (List.contains_iff_mem.mp there)
    · simp only [noted, Gate.step, if_neg there]
      exact k.stay
  | fail who how =>
    by_cases held : g.holder.isSome = true
    · simp only [noted, Gate.step, if_pos held]
      exact k.stay
    · simp only [noted, Gate.step, if_neg held]
      exact k.fail who (Option.not_isSome_iff_eq_none.mp held)

theorem run (k : Kept notes g) (steps : List (Step ι)) :
    Kept (notes ++ g.log steps) (g.run steps) := by
  induction steps generalizing notes g with
  | nil =>
    rw [log, List.append_nil]
    exact k
  | cons s rest ih =>
    rw [log, ← List.append_assoc]
    exact ih (k.step s)

end Kept

/-! ## Every run -/

/-- After every sequence of steps, of any visitors in any order: the notes tell who holds the gate and
who waits. At most one has it, nobody has it and waits, and somebody has it if anybody waits. It went to
those who came in the order of their coming, past those who gave up and to each once for each coming. A
holder that goes wrong is told apart from one that is done by the answer alone: the gate goes on to the
next in line all the same, and is free if there is none. -/
theorem served_in_order (steps : List (Step ι)) :
    let g := empty.run steps
    let notes := empty.log steps
    (∀ who, Inside notes who ↔ g.holder = some who) ∧
      (∀ who, InLine notes who ↔ who ∈ g.waiting) ∧
      (∀ a b, Inside notes a → Inside notes b → a = b) ∧
      (∀ who, ¬(Inside notes who ∧ InLine notes who)) ∧
      ((∃ who, InLine notes who) → ∃ who, Inside notes who) ∧
      Fair notes ∧
      (∀ who how, g.holder = some who →
        g.step (.goWrong who how) = (.wentWrong how, (g.step (.release who)).2) ∧
        g.noted (.goWrong who how) = g.noted (.release who) ∧
        (g.step (.release who)).2 = ⟨g.waiting.head?, g.waiting.tail⟩) ∧
      (∀ who how, g.holder = none →
        g.step (.fail who how) = (.wentWrong how, g) ∧ g.run [.acquire who, .release who] = g) := by
  intro g notes
  have k : Kept notes g := Kept.start.run steps
  have inside := k.written.inside_iff
  have inLine := k.written.inLine_iff
  refine ⟨inside, inLine, ?_, ?_, ?_, k.written.fair, ?_, ?_⟩
  · intro a b ha hb
    exact Option.some.inj (((inside a).mp ha).symm.trans ((inside b).mp hb))
  · rintro who ⟨has, waits⟩
    exact k.written.single.2 who ((inside who).mp has) ((inLine who).mp waits)
  · rintro ⟨who, waits⟩
    cases held : g.holder with
    | none =>
      have mem := (inLine who).mp waits
      rw [k.attended held] at mem
      exact absurd mem List.not_mem_nil
    | some other => exact ⟨other, (inside other).mpr held⟩
  · intro who how held
    have mine : g.holds who = true := beq_iff_eq.mpr held
    have release : g.step (.release who) = (.ok, g.leave) := if_pos mine
    have goWrong : g.step (.goWrong who how) = (.wentWrong how, g.leave) := if_pos mine
    refine ⟨by rw [release, goWrong], ?_, ?_⟩
    · rw [noted, noted, release, goWrong]
    · rw [release]
      show pass g.waiting = _
      cases g.waiting <;> rfl
  · intro who how free
    have alone : g = empty := by
      have nobody := k.attended free
      obtain ⟨holder, waiting⟩ := g
      cases free
      cases nobody
      rfl
    rw [alone]
    refine ⟨rfl, ?_⟩
    -- Who has just entered the empty gate is the one who holds it.
    have mine : (empty.enter who).holds who = true := beq_self_eq_true (some who)
    show (step (empty.enter who) (.release who)).2 = empty
    rw [step, if_pos mine]
    rfl

/-- The second gives up and comes again, so the third goes before it when the first breaks down. -/
example : (empty : Gate Nat).log [.acquire 1, .acquire 2, .acquire 3, .cancel 2, .goWrong 1 .panic,
    .acquire 2, .release 3] =
    [.came 1, .obtained 1, .came 2, .came 3, .gaveUp 2, .parted 1, .obtained 3, .came 2, .parted 3,
      .obtained 2] := by decide

end Gate

/-! ## Tasks of a pool -/

namespace Pool

variable {σ α : Type} {answer : Surroundings σ} {p : Pool σ α}

/-- What a move of the pool is to the gate. A task that has failed leaves the gate like one that is
done, by asking to. -/
def visit (p : Pool σ α) : Move σ → List (Gate.Step Nat)
  | .step i =>
    match p.tasks[i]? with
    | some (.ready (.ask .enterGate _)) => [.acquire i]
    | some (.ready (.ask .leaveGate _)) => [.release i]
    | _ => []
  | .drop i =>
    match p.tasks[i]? with
    | some (.ready _) => [.goWrong i .panic]
    | some (.waiting _) => [.cancel i]
    | _ => []
  | .change _ => []

/-- What a schedule is to the gate. -/
def visits (answer : Surroundings σ) (p : Pool σ α) : List (Move σ) → List (Gate.Step Nat)
  | [] => []
  | m :: rest => p.visit m ++ (p.move answer m).visits answer rest

/-- A task that is given up goes wrong, if it holds the gate, and waits no more, if it waits. -/
theorem gate_of_drop (p : Pool σ α) (i : Nat) : (p.drop i).gate = p.gate.run (p.visit (.drop i)) := by
  cases here : p.tasks[i]? with
  | none => simp only [drop, visit, here, Gate.run, List.foldl_nil]
  | some t =>
    cases t with
    | dropped => simp only [drop, visit, here, Gate.run, List.foldl_nil]
    | ready rest =>
      simp only [drop, visit, here, Gate.run, List.foldl_cons, List.foldl_nil, Gate.step]
      split
      next => exact gate_leaveGate _
      next => rfl
    | waiting rest =>
      simp only [drop, visit, here, Gate.run, List.foldl_cons, List.foldl_nil, Gate.step]
      split
      next => rfl
      next absent =>
        show ({ p.gate with waiting := p.gate.waiting.erase i } : Gate Nat) = p.gate
        rw [List.erase_of_not_mem fun mem => absent (List.contains_iff_mem.mpr mem)]

namespace Orderly

/-- A task that comes to the gate is not there yet. -/
theorem away_of_enter (o : p.Orderly) {i : Nat} {next : Unit → Procedure α}
    (here : p.tasks[i]? = some (.ready (.ask .enterGate next))) :
    p.gate.holder ≠ some i ∧ i ∉ p.gate.waiting := by
  constructor
  · intro mine
    cases o.inside_of_ready mine here with
    | ask plain _ => cases plain
  · intro there
    obtain ⟨rest, waiting⟩ := o.queued i there
    rw [here] at waiting
    cases waiting

/-- A task that leaves the gate holds it. -/
theorem mine_of_leave (o : p.Orderly) {i : Nat} {next : Unit → Procedure α}
    (here : p.tasks[i]? = some (.ready (.ask .leaveGate next))) : p.gate.holder = some i := by
  by_contra away
  cases o.outside i _ away here with
  | outside public_ => exact absurd public_.of_ask.1 Bool.false_ne_true

theorem gate_of_step (o : p.Orderly) (i : Nat) :
    (p.step answer i).gate = p.gate.run (p.visit (.step i)) := by
  cases here : p.tasks[i]? with
  | none => simp only [step, visit, here, Gate.run, List.foldl_nil]
  | some t =>
    cases t with
    | waiting rest | dropped => simp only [step, visit, here, Gate.run, List.foldl_nil]
    | ready rest =>
      cases rest with
      | done a => simp only [step, visit, here, Gate.run, List.foldl_nil]
      | ask q next =>
        cases q with
        | enterGate =>
          obtain ⟨away, absent⟩ := o.away_of_enter here
          have fresh : ¬(p.gate.holds i || p.gate.waits i) = true := by
            simp [Gate.holds, Gate.waits, away, absent]
          have visited : p.gate.run (p.visit (.step i)) = p.gate.enter i := by
            simp only [visit, here, Gate.run, List.foldl_cons, List.foldl_nil, Gate.step, if_neg fresh]
          rw [visited]
          simp only [step, here]
          split <;> rfl
        | leaveGate =>
          have mine : p.gate.holds i = true := beq_iff_eq.mpr (o.mine_of_leave here)
          have visited : p.gate.run (p.visit (.step i)) = p.gate.leave := by
            simp only [visit, here, Gate.run, List.foldl_cons, List.foldl_nil, Gate.step, if_pos mine]
          rw [visited]
          simp only [step, here]
          exact gate_leaveGate _
        | _ =>
          rw [(step_ask answer here rfl).1]
          simp only [visit, here, Gate.run, List.foldl_nil]
          rfl

theorem gate_of_move (o : p.Orderly) (m : Move σ) :
    (p.move answer m).gate = p.gate.run (p.visit m) := by
  cases m with
  | change f => rfl
  | step i => exact o.gate_of_step i
  | drop i => exact gate_of_drop p i

/-- In a pool the gate goes as it goes by itself, with one step for each move of a task that comes to
it, leaves it or is given up. -/
theorem gate_of_run (o : p.Orderly) (schedule : List (Move σ)) :
    (p.run answer schedule).gate = p.gate.run (p.visits answer schedule) := by
  induction schedule generalizing p with
  | nil => rfl
  | cons m rest ih =>
    have next : (p.move answer m).Orderly := o.run [m]
    show ((p.move answer m).run answer rest).gate = _
    rw [ih next, o.gate_of_move, visits, Gate.run, Gate.run, Gate.run, List.foldl_append]

end Orderly

end Pool

end Circulation
