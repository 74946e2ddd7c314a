/-
This file follows refusals. Classifying a condition and making predicates of its buckets
fail in one way only: what they were given is invalid. A plan that comes to such a
failure before it sends anything refuses, on every session.
-/

import TableGateway.Proofs.Compilation
import TableGateway.Proofs.Operation

namespace TableGateway

/-! ### Checks that only refuse -/

/-- A check that passes, or refuses what it was given; it does not fail otherwise. -/
inductive OnlyRefuses {Result : Type} : Except Failure Result → Prop where
  | passes (result : Result) : OnlyRefuses (.ok result)
  | refuses (fault : Fault) : OnlyRefuses (.error (.invalid fault))

theorem OnlyRefuses.bind {Result Next : Type} {checked : Except Failure Result}
    {next : Result → Except Failure Next} (first : OnlyRefuses checked)
    (rest : ∀ result, OnlyRefuses (next result)) : OnlyRefuses (checked >>= next) := by
  cases first with
  | passes result => exact rest result
  | refuses fault => exact .refuses fault

theorem OnlyRefuses.map {Result Next : Type} {checked : Except Failure Result}
    (only : OnlyRefuses checked) (next : Result → Next) : OnlyRefuses (checked.map next) := by
  cases only with
  | passes result => exact .passes (next result)
  | refuses fault => exact .refuses fault

/-- A check is refused that first only refuses, and is refused where that passes. -/
theorem OnlyRefuses.refused_bind {Result Next : Type} {checked : Except Failure Result}
    {next : Result → Except Failure Next} (first : OnlyRefuses checked)
    (rest : ∀ result, checked = .ok result → ∃ fault, next result = .error (.invalid fault)) :
    ∃ fault, (checked >>= next) = .error (.invalid fault) := by
  cases first with
  | passes result => exact rest result rfl
  | refuses fault => exact ⟨fault, rfl⟩

theorem onlyRefuses_orRefuse {Result : Type} (checked : Except Fault Result) :
    OnlyRefuses (orRefuse checked) := by
  cases checked with
  | ok result => exact .passes result
  | error fault => exact .refuses fault

theorem onlyRefuses_checkNumber (key value : Value) : OnlyRefuses (checkNumber key value) := by
  unfold checkNumber
  split
  · exact .refuses _
  · exact .passes _

theorem onlyRefuses_mergeBucket (operator : Operator) (buckets : Buckets)
    (fields : List (Value × Value)) : OnlyRefuses (mergeBucket operator buckets fields) := by
  induction fields generalizing buckets with
  | nil => exact .passes _
  | cons field rest inductionHypothesis =>
    exact (onlyRefuses_checkNumber _ _).bind fun _ => inductionHypothesis _

theorem onlyRefuses_classifyField (enableUndefined : Bool) (buckets : Buckets)
    (key value : Value) : OnlyRefuses (classifyField enableUndefined buckets key value) := by
  refine (onlyRefuses_checkNumber key value).bind fun _ => ?_
  split
  · exact .passes _
  · split
    · exact .passes _
    · exact .refuses _
  · exact .passes _

theorem onlyRefuses_classifyEntries (enableUndefined : Bool) (buckets : Buckets)
    (entries : List (Value × Value)) :
    OnlyRefuses (classifyEntries enableUndefined buckets entries) := by
  induction entries generalizing buckets with
  | nil => exact .passes _
  | cons entry rest inductionHypothesis =>
    obtain ⟨key, value⟩ := entry
    have first : OnlyRefuses (classifyEntry enableUndefined buckets key value) := by
      unfold classifyEntry
      split
      · exact onlyRefuses_mergeBucket _ _ _
      · exact onlyRefuses_classifyField _ _ _ _
    exact first.bind fun _ => inductionHypothesis _

/-- A condition is classified or refused. -/
theorem onlyRefuses_classify (condition : Record) (enableUndefined : Bool) :
    OnlyRefuses (classify condition enableUndefined) :=
  onlyRefuses_classifyEntries enableUndefined [] condition

theorem onlyRefuses_comparedValue (key : Value) (operator : Operator) (value : Value) :
    OnlyRefuses (comparedValue key operator value) := by
  unfold comparedValue
  split
  · split
    · exact .passes _
    · exact .refuses _
  · exact .passes _

theorem onlyRefuses_checkNumbers (key : Value) (items : List Value) :
    OnlyRefuses (checkNumbers key items) := by
  induction items with
  | nil => exact .passes _
  | cons item rest inductionHypothesis =>
    exact (onlyRefuses_checkNumber key item).bind fun _ => inductionHypothesis

theorem onlyRefuses_membershipArgument (key : Value) (operator : Operator) (value : Value) :
    OnlyRefuses (membershipArgument key operator value) := by
  unfold membershipArgument
  split
  · exact .refuses _
  · exact (onlyRefuses_checkNumbers _ _).bind fun _ => .passes _
  · exact .passes _

/-- A style that can be looked up is known or refused. -/
theorem onlyRefuses_forClause {style : Value} (hashable : style.isHashable = true) :
    OnlyRefuses (ParamStyle.forClause style) := by
  unfold ParamStyle.forClause
  rw [hashable, Bool.not_true, if_neg Bool.false_ne_true]
  split
  · exact .passes _
  · exact .refuses _

namespace Predicate

theorem onlyRefuses_ofField (operator : Operator) (key value : Value) :
    OnlyRefuses (ofField operator key value) := by
  refine (onlyRefuses_orRefuse _).bind fun column => ?_
  refine (onlyRefuses_comparedValue key operator value).bind fun compared => ?_
  refine (onlyRefuses_checkNumber key compared).bind fun _ => ?_
  split
  · exact (onlyRefuses_membershipArgument _ _ _).bind fun _ => .passes _
  · exact .passes _

theorem onlyRefuses_ofFields (operator : Operator) (fields : List (Value × Value)) :
    OnlyRefuses (ofFields operator fields) := by
  induction fields with
  | nil => exact .passes _
  | cons field rest inductionHypothesis =>
    refine (onlyRefuses_ofField operator field.1 field.2).bind fun predicate => ?_
    exact inductionHypothesis.bind fun _ => .passes _

/-- Buckets become predicates or are refused. -/
theorem onlyRefuses_ofBuckets (buckets : List (Value × Value)) :
    OnlyRefuses (ofBuckets buckets) := by
  induction buckets with
  | nil => exact .passes _
  | cons bucket rest inductionHypothesis =>
    have first : OnlyRefuses (ofBucket bucket.1 bucket.2) := by
      refine (onlyRefuses_orRefuse _).bind fun operator => ?_
      split
      · exact onlyRefuses_ofFields _ _
      · exact .refuses _
    exact first.bind fun predicates => inductionHypothesis.bind fun _ => .passes _

end Predicate

/-! ### Plans that refuse -/

namespace Plan

variable {Result Next : Type}

/-- A plan that sends nothing, and whatever it says, comes to a refusal. -/
def Refuses : Plan Result → Prop
  | .done _ => False
  | .failed failure => ∃ fault, failure = .invalid fault
  | .note _ _ rest => rest.Refuses
  | .send _ _ => False

theorem Refuses.bind {plan : Plan Result} (refuses : plan.Refuses) (next : Result → Plan Next) :
    (plan >>= next).Refuses := by
  induction plan with
  | done result => cases refuses
  | failed failure => exact refuses
  | note level message rest inductionHypothesis => exact inductionHypothesis refuses
  | send statement rest => cases refuses

/-- A plan that only checks refuses where its check does. -/
theorem refuses_of_check {plan : Plan Result} {fault : Fault}
    (quiet : plan.silent = ofExcept (.error (.invalid fault))) : plan.Refuses := by
  induction plan with
  | done result => cases quiet
  | failed failure =>
    cases quiet
    exact ⟨fault, rfl⟩
  | note level message rest inductionHypothesis => exact inductionHypothesis quiet
  | send statement rest => cases quiet

/-- A plan refuses that first makes a check that only refuses, and refuses where the check
passes. -/
theorem refuses_bind_check {plan : Plan Result} {checked : Except Failure Result}
    {next : Result → Plan Next} (quiet : plan.silent = ofExcept checked)
    (only : OnlyRefuses checked) (rest : ∀ result, checked = .ok result → (next result).Refuses) :
    (plan >>= next).Refuses := by
  cases only with
  | refuses fault => exact (refuses_of_check quiet).bind next
  | passes result =>
    induction plan with
    | done found =>
      cases quiet
      exact rest _ rfl
    | failed failure => cases quiet
    | note level message plan inductionHypothesis => exact inductionHypothesis quiet
    | send statement replies => cases quiet

end Plan

/-- On every session, a plan that refuses sends nothing and fails with a refusal. -/
theorem Session.sent_of_refuses {Result : Type} {plan : Plan Result} (refuses : plan.Refuses)
    (dialect : Dialect) (session : Session) :
    session.sent dialect plan = [] ∧
      ∃ fault, (session.run dialect plan).1 = .error (.invalid fault) := by
  induction plan generalizing session with
  | done result => cases refuses
  | failed failure =>
    obtain ⟨fault, rfl⟩ := refuses
    exact ⟨rfl, fault, rfl⟩
  | note level message rest inductionHypothesis => exact inductionHypothesis refuses _
  | send statement rest => cases refuses

end TableGateway
