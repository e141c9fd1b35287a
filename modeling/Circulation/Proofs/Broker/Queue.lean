/- # Circulation.Proofs.Broker.Queue -- a durable queue and its deliveries

A queue delivers any of the messages that are ready, each under a tag that is not in use, and keeps it
until it is settled: acknowledged and set aside messages are gone, a message that is put back is ready
again. So a queue whose deliveries are all settled for good delivers every message once: what was
delivered and what is ready are together what it held at the beginning (`Queue.Serves.balance`).
-/
import Circulation.Broker.Consumer
import Mathlib.Data.List.Perm.Basic

namespace Circulation.Broker

/-! ## Settlements -/

/-- One message is settled, and it does not come again. -/
def Settlement.Final (s : Settlement) : Prop := s = .ack false ∨ s = .nack false false

theorem final_settlementFor {d : Disposition} (settled : d ≠ .requeue) : (settlementFor d).Final := by
  cases d with
  | ack => exact .inl rfl
  | requeue => exact absurd rfl settled
  | deadLetter => exact .inr rfl

/-! ## Queues -/

/-- Messages that are ready, and those that were delivered under a tag and are not settled yet. -/
structure Queue where
  ready : List Bytes
  unsettled : List (Nat × Bytes)

/-- What a queue does, or is told. -/
inductive Act where
  | deliver (tag : Nat) (body : Bytes)
  | settle (tag : Nat) (s : Settlement)

namespace Act

def delivery? : Act → Option (Nat × Bytes)
  | deliver tag body => some (tag, body)
  | settle .. => none

def settlement? : Act → Option (Nat × Settlement)
  | deliver .. => none
  | settle tag s => some (tag, s)

end Act

namespace Queue

/-- One act of a queue. Deliveries are settled one by one. -/
inductive Step : Queue → Act → Queue → Prop
  | deliver {before after : List Bytes} {unsettled : List (Nat × Bytes)} {tag : Nat} {body : Bytes}
      (fresh : ∀ x ∈ unsettled, x.1 ≠ tag) :
      Step ⟨before ++ body :: after, unsettled⟩ (.deliver tag body)
        ⟨before ++ after, (tag, body) :: unsettled⟩
  | settle {ready : List Bytes} {before after : List (Nat × Bytes)} {tag : Nat} {body : Bytes}
      {s : Settlement} (final : s.Final) :
      Step ⟨ready, before ++ (tag, body) :: after⟩ (.settle tag s) ⟨ready, before ++ after⟩
  /-- The message is ready again, in any place. -/
  | putBack {early late : List Bytes} {before after : List (Nat × Bytes)} {tag : Nat} {body : Bytes} :
      Step ⟨early ++ late, before ++ (tag, body) :: after⟩ (.settle tag (.nack false true))
        ⟨early ++ body :: late, before ++ after⟩

/-- Acts in a row. -/
inductive Runs : Queue → List Act → Queue → Prop
  | refl (q : Queue) : Runs q [] q
  | step {q q' q'' : Queue} {a : Act} {log : List Act} :
      Step q a q' → Runs q' log q'' → Runs q (a :: log) q''

/-- A queue that held these messages has made these deliveries and was told these settlements, in any
order of the two, and this is what it holds now. -/
def Serves (messages : List Bytes) (deliveries : List (Nat × Bytes)) (told : List (Nat × Settlement))
    (q : Queue) : Prop :=
  ∃ log, Runs ⟨messages, []⟩ log q ∧ log.filterMap Act.delivery? = deliveries ∧
    log.filterMap Act.settlement? = told

/-! ## What is put back is delivered again, nothing else -/

/-- In an act that puts nothing back, messages go from ready to delivered to gone. -/
theorem Step.balance {q q' : Queue} {a : Act} (h : Step q a q')
    (final : ∀ x ∈ a.settlement?, x.2.Final) :
    (a.delivery?.toList.map Prod.snd ++ q'.ready).Perm q.ready ∧
      a.settlement?.toList.length + q'.unsettled.length =
        a.delivery?.toList.length + q.unsettled.length := by
  cases h with
  | @deliver before after unsettled tag body =>
    refine ⟨?_, ?_⟩
    · show (body :: (before ++ after)).Perm (before ++ body :: after)
      exact List.perm_middle.symm
    · simp [Act.settlement?, Act.delivery?, Nat.add_comm]
  | settle =>
    refine ⟨.refl _, ?_⟩
    simp [Act.settlement?, Act.delivery?]
    omega
  | putBack =>
    have settled := final (_, .nack false true) rfl
    simp [Settlement.Final] at settled

theorem Runs.balance {q q' : Queue} {log : List Act} (h : Runs q log q')
    (final : ∀ x ∈ log.filterMap Act.settlement?, x.2.Final) :
    ((log.filterMap Act.delivery?).map Prod.snd ++ q'.ready).Perm q.ready ∧
      (log.filterMap Act.settlement?).length + q'.unsettled.length =
        (log.filterMap Act.delivery?).length + q.unsettled.length := by
  induction h with
  | refl q => exact ⟨.refl _, rfl⟩
  | @step q q' q'' a log first _ ih =>
    have parts {β : Type} (f : Act → Option β) :
        (a :: log).filterMap f = (f a).toList ++ log.filterMap f := by
      cases f_a : f a <;> simp [f_a]
    rw [parts] at final
    obtain ⟨messages, counts⟩ := first.balance fun x here =>
      final x (List.mem_append_left _ (Option.mem_toList.mpr here))
    obtain ⟨messages', counts'⟩ := ih fun x here => final x (List.mem_append_right _ here)
    rw [parts, parts]
    constructor
    · rw [List.map_append, List.append_assoc]
      exact (messages'.append_left _).trans messages
    · simp only [List.length_append]
      omega

/-- If every settlement is for good, each message was delivered once or is ready, and a delivery that is
not settled is waiting to be. -/
theorem Serves.balance {messages : List Bytes} {deliveries : List (Nat × Bytes)}
    {told : List (Nat × Settlement)} {q : Queue} (served : q.Serves messages deliveries told)
    (final : ∀ x ∈ told, x.2.Final) :
    (deliveries.map Prod.snd ++ q.ready).Perm messages ∧
      told.length + q.unsettled.length = deliveries.length := by
  obtain ⟨log, runs, rfl, rfl⟩ := served
  exact runs.balance final

/-! ## One delivery at a time -/

/-- Each delivery is settled before the next is made. -/
def inTurn : List (Nat × Bytes) → List (Nat × Settlement) → List Act
  | (tag, body) :: deliveries, (_, s) :: told =>
    .deliver tag body :: .settle tag s :: inTurn deliveries told
  | _, _ => []

/-- A queue can make its deliveries one at a time, and holds nothing in the end. -/
theorem serves_inTurn {deliveries : List (Nat × Bytes)} {told : List (Nat × Settlement)}
    (final : ∀ x ∈ told, x.2.Final) (same : told.map Prod.fst = deliveries.map Prod.fst) :
    (⟨[], []⟩ : Queue).Serves (deliveries.map Prod.snd) deliveries told := by
  suffices turns : Runs ⟨deliveries.map Prod.snd, []⟩ (inTurn deliveries told) ⟨[], []⟩ ∧
      (inTurn deliveries told).filterMap Act.delivery? = deliveries ∧
      (inTurn deliveries told).filterMap Act.settlement? = told from ⟨_, turns⟩
  induction deliveries generalizing told with
  | nil =>
    obtain rfl : told = [] := List.map_eq_nil_iff.mp same
    exact ⟨.refl _, rfl, rfl⟩
  | cons delivery deliveries ih =>
    cases told with
    | nil => cases same
    | cons settlement told =>
      obtain ⟨tag, body⟩ := delivery
      obtain ⟨tag', s⟩ := settlement
      obtain ⟨rfl, rest⟩ := List.cons.inj same
      obtain ⟨runs, delivered, settled⟩ := ih (fun x mem => final x (List.mem_cons_of_mem _ mem)) rest
      have made : Step ⟨body :: deliveries.map Prod.snd, []⟩ (.deliver tag' body)
          ⟨deliveries.map Prod.snd, [(tag', body)]⟩ := @Step.deliver [] _ [] tag' body (by simp)
      have gone : Step ⟨deliveries.map Prod.snd, [(tag', body)]⟩ (.settle tag' s)
          ⟨deliveries.map Prod.snd, []⟩ :=
        @Step.settle _ [] [] tag' body s (final (tag', s) List.mem_cons_self)
      refine ⟨.step made (.step gone runs), ?_, ?_⟩
      · exact congrArg (List.cons (tag', body)) delivered
      · exact congrArg (List.cons (tag', s)) settled

end Queue

end Circulation.Broker
