/-
This file follows plans through their runs. A run sends statements in order and comes
to an end; any reply may come back, and any statement may fail in its handle. What a
plan always does is said over the plan itself, one step at a time, and then holds of
every run. What is only said on the way makes no difference: a plan and the plan with
nothing said have the same runs.
-/

import Mathlib.Data.List.Forall2
import TableGateway.Plan

namespace TableGateway

/-! ### Checks -/

/-- A check that passes has passed each of its steps. -/
theorem ok_of_bind {Cause Result Next : Type} {checked : Except Cause Result}
    {next : Result → Except Cause Next} {last : Next} (passed : (checked >>= next) = .ok last) :
    ∃ result, checked = .ok result ∧ next result = .ok last := by
  cases checked with
  | ok result => exact ⟨result, rfl, passed⟩
  | error cause => cases passed

theorem exists_bind_iff {Cause Result Next : Type} {checked : Except Cause Result}
    {next : Result → Except Cause Next} :
    (∃ last, (checked >>= next) = .ok last) ↔
      ∃ result, checked = .ok result ∧ ∃ last, next result = .ok last := by
  constructor
  · rintro ⟨last, passed⟩
    obtain ⟨result, first, later⟩ := ok_of_bind passed
    exact ⟨result, first, last, later⟩
  · rintro ⟨result, rfl, passed⟩
    exact passed

theorem ok_of_map {Cause Result Next : Type} {checked : Except Cause Result}
    {next : Result → Next} {last : Next} (passed : checked.map next = .ok last) :
    ∃ result, checked = .ok result ∧ last = next result := by
  cases checked with
  | ok result =>
    cases passed
    exact ⟨result, rfl, rfl⟩
  | error cause => cases passed

/-- What is made of several things is made of one after another. -/
theorem mapM_eq_ok_iff {Cause Item Result : Type} {each : Item → Except Cause Result}
    {items : List Item} {results : List Result} :
    items.mapM each = .ok results ↔
      List.Forall₂ (fun item result => each item = .ok result) items results := by
  constructor
  · intro made
    induction items generalizing results with
    | nil =>
      cases made
      exact .nil
    | cons item rest inductionHypothesis =>
      rw [List.mapM_cons] at made
      obtain ⟨result, here, made⟩ := ok_of_bind made
      obtain ⟨others, later, made⟩ := ok_of_bind made
      cases made
      exact .cons here (inductionHypothesis later)
  · intro each
    induction each with
    | nil => rfl
    | cons here _ inductionHypothesis =>
      rw [List.mapM_cons, here, inductionHypothesis]
      rfl

/-- Things that each can be made are made one after another. -/
theorem exists_mapM_of_forall {Cause Item Result : Type} {each : Item → Except Cause Result}
    {items : List Item} (makes : ∀ item ∈ items, ∃ result, each item = .ok result) :
    ∃ results, items.mapM each = .ok results := by
  induction items with
  | nil => exact ⟨[], rfl⟩
  | cons item rest inductionHypothesis =>
    obtain ⟨⟨result, here⟩, later⟩ := List.forall_mem_cons.mp makes
    obtain ⟨results, made⟩ := inductionHypothesis later
    exact ⟨result :: results, mapM_eq_ok_iff.mpr (.cons here (mapM_eq_ok_iff.mp made))⟩

/-- Where several things cannot all be made, one of them cannot. -/
theorem exists_of_mapM_eq_error {Cause Item Result : Type} {each : Item → Except Cause Result}
    {items : List Item} {cause : Cause} (failed : items.mapM each = .error cause) :
    ∃ item ∈ items, each item = .error cause := by
  induction items with
  | nil => cases failed
  | cons item rest inductionHypothesis =>
    rw [List.mapM_cons] at failed
    cases here : each item with
    | error own =>
      rw [here] at failed
      cases failed
      exact ⟨item, List.mem_cons_self, here⟩
    | ok result =>
      rw [here] at failed
      cases later : rest.mapM each with
      | error own =>
        rw [later] at failed
        cases failed
        obtain ⟨other, member, same⟩ := inductionHypothesis later
        exact ⟨other, List.mem_cons_of_mem _ member, same⟩
      | ok results =>
        rw [later] at failed
        cases failed

/-- A check whose only failures are faults passes as it does outside of a plan. -/
theorem orRefuse_eq_ok {Result : Type} {checked : Except Fault Result} {result : Result}
    (passed : orRefuse checked = .ok result) : checked = .ok result := by
  cases checked with
  | ok found =>
    cases passed
    rfl
  | error fault => cases passed

/-! ### Runs -/

/-- How a run of a plan ends: with its result, with a failure of its own, or with the failure of
the handle that was sent the last statement. -/
inductive Ending (Result : Type) where
  | done (result : Result)
  | failed (failure : Failure)
  | broken (failure : Failure)

namespace Ending

variable {Result : Type}

/-- The ending of a check. -/
def ofExcept : Except Failure Result → Ending Result
  | .ok result => .done result
  | .error failure => .failed failure

/-- What a caller sees of an ending. -/
def outcome : Ending Result → Except Failure Result
  | .done result => .ok result
  | .failed failure => .error failure
  | .broken failure => .error failure

end Ending

namespace Plan

variable {Result Next : Type}

/-- A run of a plan: the statements it sends, in order, and how it ends. -/
inductive Runs : Plan Result → List Statement → Ending Result → Prop where
  | done (result : Result) : Runs (.done result) [] (.done result)
  | failed (failure : Failure) : Runs (.failed failure) [] (.failed failure)
  | noted {level : Level} {message : String} {rest : Plan Result} {sent : List Statement}
      {ending : Ending Result} (run : Runs rest sent ending) :
      Runs (.note level message rest) sent ending
  | answered {statement : Statement} {rest : Reply → Plan Result} {sent : List Statement}
      {ending : Ending Result} (reply : Reply) (run : Runs (rest reply) sent ending) :
      Runs (.send statement rest) (statement :: sent) ending
  | broken (statement : Statement) (rest : Reply → Plan Result) (failure : Failure) :
      Runs (.send statement rest) [statement] (.broken failure)

/-! ### What a plan always does -/

/-- Whatever the replies, every statement that a plan sends is allowed, and every result that it
comes to is as expected. -/
def Always (allowed : Statement → Prop) (expected : Result → Prop) : Plan Result → Prop
  | .done result => expected result
  | .failed _ => True
  | .note _ _ rest => rest.Always allowed expected
  | .send statement rest => allowed statement ∧ ∀ reply, (rest reply).Always allowed expected

variable {allowed other : Statement → Prop} {expected : Result → Prop} {after : Next → Prop}

theorem Always.bind {plan : Plan Result} {next : Result → Plan Next}
    (first : plan.Always allowed expected)
    (rest : ∀ result, expected result → (next result).Always allowed after) :
    (plan >>= next).Always allowed after := by
  induction plan with
  | done result => exact rest result first
  | failed failure => trivial
  | note level message plan inductionHypothesis => exact inductionHypothesis first
  | send statement replies inductionHypothesis =>
    exact ⟨first.1, fun reply => inductionHypothesis reply (first.2 reply)⟩

theorem Always.mono {plan : Plan Result} {wider : Result → Prop}
    (always : plan.Always allowed expected) (statements : ∀ sent, allowed sent → other sent)
    (results : ∀ result, expected result → wider result) : plan.Always other wider := by
  induction plan with
  | done result => exact results result always
  | failed failure => trivial
  | note level message plan inductionHypothesis => exact inductionHypothesis always
  | send statement replies inductionHypothesis =>
    exact ⟨statements statement always.1, fun reply => inductionHypothesis reply (always.2 reply)⟩

/-- What a plan always sends is what each of its runs sends. -/
theorem Always.of_runs {plan : Plan Result} {sent : List Statement} {ending : Ending Result}
    (always : plan.Always allowed expected) (run : plan.Runs sent ending) :
    ∀ statement ∈ sent, allowed statement := by
  induction run with
  | done result => exact fun _ member => absurd member List.not_mem_nil
  | failed failure => exact fun _ member => absurd member List.not_mem_nil
  | noted run inductionHypothesis => exact inductionHypothesis always
  | answered reply run inductionHypothesis =>
    intro statement member
    rcases List.mem_cons.mp member with rfl | later
    · exact always.1
    · exact inductionHypothesis (always.2 reply) statement later
  | broken statement rest failure =>
    intro other member
    rw [List.mem_singleton.mp member]
    exact always.1

theorem Always.weaken {plan : Plan Result} (always : plan.Always allowed expected)
    (statements : ∀ sent, allowed sent → other sent) : plan.Always other expected :=
  always.mono statements fun _ met => met

theorem Always.anyway {plan : Plan Result} (always : plan.Always allowed expected) :
    plan.Always allowed fun _ => True :=
  always.mono (fun _ permitted => permitted) fun _ _ => trivial

theorem always_ask (statement : Statement) (permitted : allowed statement) :
    (ask statement).Always allowed fun _ => True :=
  ⟨permitted, fun _ => trivial⟩

/-! ### Plans with nothing said -/

/-- A plan with nothing said on the way. -/
def silent : Plan Result → Plan Result
  | .done result => .done result
  | .failed failure => .failed failure
  | .note _ _ rest => rest.silent
  | .send statement rest => .send statement fun reply => (rest reply).silent

@[simp] theorem silent_bind (plan : Plan Result) (next : Result → Plan Next) :
    (plan >>= next).silent = plan.silent >>= fun result => (next result).silent := by
  induction plan with
  | done result => rfl
  | failed failure => rfl
  | note level message rest inductionHypothesis => exact inductionHypothesis
  | send statement rest inductionHypothesis =>
    exact congrArg (send statement) (funext inductionHypothesis)

@[simp] theorem silent_say (level : Level) (message : String) :
    (say level message).silent = pure () := rfl

@[simp] theorem silent_ofExcept (checked : Except Failure Result) :
    (ofExcept checked).silent = ofExcept checked := by
  cases checked <;> rfl

theorem ofExcept_bind (checked : Except Failure Result) (next : Result → Except Failure Next) :
    ofExcept (checked >>= next) = ofExcept checked >>= fun result => ofExcept (next result) := by
  cases checked <;> rfl

theorem runs_silent {plan : Plan Result} {sent : List Statement} {ending : Ending Result}
    (run : plan.Runs sent ending) : plan.silent.Runs sent ending := by
  induction run with
  | done result => exact .done result
  | failed failure => exact .failed failure
  | noted run inductionHypothesis => exact inductionHypothesis
  | answered reply run inductionHypothesis => exact .answered reply inductionHypothesis
  | broken statement rest failure => exact .broken statement _ failure

theorem always_of_silent {plan : Plan Result} (always : plan.silent.Always allowed expected) :
    plan.Always allowed expected := by
  induction plan with
  | done result => exact always
  | failed failure => trivial
  | note level message rest inductionHypothesis => exact inductionHypothesis always
  | send statement rest inductionHypothesis =>
    exact ⟨always.1, fun reply => inductionHypothesis reply (always.2 reply)⟩

/-- A plan that only checks, and may say something, comes to what it checked. -/
theorem always_check {plan : Plan Result} {checked : Except Failure Result}
    (quiet : plan.silent = ofExcept checked) :
    plan.Always allowed fun result => checked = .ok result := by
  refine always_of_silent ?_
  rw [quiet]
  cases checked with
  | ok result => exact rfl
  | error failure => trivial

theorem Always.bind_check {plan : Plan Result} {next : Result → Plan Next}
    {checked : Except Failure Result} (quiet : plan.silent = ofExcept checked)
    (rest : ∀ result, checked = .ok result → (next result).Always allowed after) :
    (plan >>= next).Always allowed after :=
  (always_check quiet).bind rest

/-- A plan that only says something goes on. -/
theorem Always.bind_said {plan : Plan Unit} {next : Unit → Plan Next}
    (quiet : plan.silent = pure ()) (rest : (next ()).Always allowed after) :
    (plan >>= next).Always allowed after := by
  have passes : plan.silent = ofExcept (.ok ()) := quiet
  exact Always.bind_check passes fun _ _ => rest

/-- A plan that only checks sends nothing and ends as its check does. -/
theorem runs_check {plan : Plan Result} {checked : Except Failure Result}
    (quiet : plan.silent = ofExcept checked) {sent : List Statement} {ending : Ending Result}
    (run : plan.Runs sent ending) : sent = [] ∧ ending = .ofExcept checked := by
  have silentRun := runs_silent run
  rw [quiet] at silentRun
  cases checked with
  | ok result =>
    cases silentRun
    exact ⟨rfl, rfl⟩
  | error failure =>
    cases silentRun
    exact ⟨rfl, rfl⟩

/-! ### Plans that write last -/

/-- A plan that sends nothing and does not fail: whatever it says, it comes to a result as
expected. -/
def Concludes (expected : Result → Prop) : Plan Result → Prop
  | .done result => expected result
  | .failed _ => False
  | .note _ _ rest => rest.Concludes expected
  | .send _ _ => False

/-- Whatever the replies, a plan looks first and writes last: it sends statements that look, and
then at most one that writes, whose reply it only concludes from. -/
def WritesLast (looks writes : Statement → Prop) (expected : Result → Prop) : Plan Result → Prop
  | .done result => expected result
  | .failed _ => True
  | .note _ _ rest => rest.WritesLast looks writes expected
  | .send statement rest =>
    looks statement ∧ (∀ reply, (rest reply).WritesLast looks writes expected) ∨
      writes statement ∧ ∀ reply, (rest reply).Concludes expected

variable {looks writes : Statement → Prop}

theorem Concludes.bind {plan : Plan Result} {next : Result → Plan Next}
    (first : plan.Concludes expected)
    (rest : ∀ result, expected result → (next result).Concludes after) :
    (plan >>= next).Concludes after := by
  induction plan with
  | done result => exact rest result first
  | failed failure => cases first
  | note level message plan inductionHypothesis => exact inductionHypothesis first
  | send statement replies => cases first

theorem Concludes.always {plan : Plan Result} (concludes : plan.Concludes expected) :
    plan.Always allowed expected := by
  induction plan with
  | done result => exact concludes
  | failed failure => trivial
  | note level message plan inductionHypothesis => exact inductionHypothesis concludes
  | send statement replies => cases concludes

theorem Concludes.writesLast {plan : Plan Result} (concludes : plan.Concludes expected) :
    plan.WritesLast looks writes expected := by
  induction plan with
  | done result => exact concludes
  | failed failure => trivial
  | note level message plan inductionHypothesis => exact inductionHypothesis concludes
  | send statement replies => cases concludes

/-- Before it writes, a plan may do anything that only looks. -/
theorem Always.bind_writesLast {plan : Plan Result} {next : Result → Plan Next}
    (first : plan.Always looks expected)
    (rest : ∀ result, expected result → (next result).WritesLast looks writes after) :
    (plan >>= next).WritesLast looks writes after := by
  induction plan with
  | done result => exact rest result first
  | failed failure => trivial
  | note level message plan inductionHypothesis => exact inductionHypothesis first
  | send statement replies inductionHypothesis =>
    exact .inl ⟨first.1, fun reply => inductionHypothesis reply (first.2 reply)⟩

/-- After it has written, a plan may conclude. -/
theorem WritesLast.bind_concludes {plan : Plan Result} {next : Result → Plan Next}
    (first : plan.WritesLast looks writes expected)
    (rest : ∀ result, expected result → (next result).Concludes after) :
    (plan >>= next).WritesLast looks writes after := by
  induction plan with
  | done result => exact (rest result first).writesLast
  | failed failure => trivial
  | note level message plan inductionHypothesis => exact inductionHypothesis first
  | send statement replies inductionHypothesis =>
    rcases first with ⟨looking, later⟩ | ⟨writing, concludes⟩
    · exact .inl ⟨looking, fun reply => inductionHypothesis reply (later reply)⟩
    · exact .inr ⟨writing, fun reply => (concludes reply).bind rest⟩

theorem WritesLast.mono {plan : Plan Result} {looking writing : Statement → Prop}
    (writesLast : plan.WritesLast looks writes expected)
    (lookings : ∀ sent, looks sent → looking sent)
    (writings : ∀ sent, writes sent → writing sent) :
    plan.WritesLast looking writing expected := by
  induction plan with
  | done result => exact writesLast
  | failed failure => trivial
  | note level message plan inductionHypothesis => exact inductionHypothesis writesLast
  | send statement replies inductionHypothesis =>
    rcases writesLast with ⟨look, later⟩ | ⟨write, concludes⟩
    · exact .inl ⟨lookings statement look, fun reply => inductionHypothesis reply (later reply)⟩
    · exact .inr ⟨writings statement write, concludes⟩

theorem WritesLast.always {plan : Plan Result}
    (writesLast : plan.WritesLast looks writes expected) :
    plan.Always (fun statement => looks statement ∨ writes statement) expected := by
  induction plan with
  | done result => exact writesLast
  | failed failure => trivial
  | note level message plan inductionHypothesis => exact inductionHypothesis writesLast
  | send statement replies inductionHypothesis =>
    rcases writesLast with ⟨look, later⟩ | ⟨write, concludes⟩
    · exact ⟨.inl look, fun reply => inductionHypothesis reply (later reply)⟩
    · exact ⟨.inr write, fun reply => (concludes reply).always⟩

/-- A plan that never looks only writes. -/
theorem WritesLast.always_writes {plan : Plan Result}
    (writesLast : plan.WritesLast (fun _ => False) writes expected) :
    plan.Always writes expected :=
  writesLast.always.weaken fun _ sent => sent.resolve_left id

/-- What only looks writes last. -/
theorem Always.writesLast {plan : Plan Result} (always : plan.Always looks expected) :
    plan.WritesLast looks writes expected := by
  rw [← bind_pure plan]
  exact always.bind_writesLast fun _ met => met

theorem writesLast_ask (statement : Statement) (permitted : writes statement) :
    (ask statement).WritesLast looks writes fun _ => True :=
  .inr ⟨permitted, fun _ => trivial⟩

theorem WritesLast.bind_check {plan : Plan Result} {next : Result → Plan Next}
    {checked : Except Failure Result} (quiet : plan.silent = ofExcept checked)
    (rest : ∀ result, checked = .ok result → (next result).WritesLast looks writes after) :
    (plan >>= next).WritesLast looks writes after :=
  (always_check quiet).bind_writesLast rest

theorem WritesLast.bind_said {plan : Plan Unit} {next : Unit → Plan Next}
    (quiet : plan.silent = pure ()) (rest : (next ()).WritesLast looks writes after) :
    (plan >>= next).WritesLast looks writes after := by
  have passes : plan.silent = ofExcept (.ok ()) := quiet
  exact WritesLast.bind_check passes fun _ _ => rest

end Plan

end TableGateway
