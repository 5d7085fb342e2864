import Mathlib.Data.List.Forall2
import RolloutWatch.Proofs.Fallible
import RolloutWatch.Snapshot.Basic

/-!
# What a snapshot shows of a description

A deployment copies a described one if all they have in common is the same, and if it has the
revision of the task definition. Reading a list of descriptions gives the copies of them, one for
one and in order, and nothing else. So whether a snapshot is complete depends on the description
that it shows.
-/

namespace RolloutWatch

namespace Deployment

/-- The deployment is the described one, with the revision of the task definition. -/
structure Copies (d : Deployment) (described : DeploymentDescription) : Prop where
  status : d.status = described.status
  revision : TaskDefinition.parseRevision described.taskDefinition = .ok d.revision
  desiredCount : d.desiredCount = described.desiredCount
  runningCount : d.runningCount = described.runningCount
  failedCount : d.failedCount = described.failedCount
  pendingCount : d.pendingCount = described.pendingCount
  rolloutState : d.rolloutState = described.rolloutState

theorem ofDescription_eq_ok_iff {d : Deployment} {described : DeploymentDescription} :
    ofDescription described = .ok d ↔ d.Copies described := by
  constructor
  · intro read
    obtain ⟨revision, parsed, made⟩ := bind_eq_ok.mp read
    cases made
    exact ⟨rfl, parsed, rfl, rfl, rfl, rfl, rfl⟩
  · rintro ⟨status, revision, desired, running, failed, pending, state⟩
    refine bind_eq_ok.mpr ⟨d.revision, revision, ?_⟩
    rw [← status, ← desired, ← running, ← failed, ← pending, ← state]
    rfl

/-- Reading a list gives copies, one for one and in order. -/
theorem ofDescriptions_eq_ok_iff {described : List DeploymentDescription} :
    ∀ {deployments}, ofDescriptions described = .ok deployments ↔
      List.Forall₂ Copies deployments described := by
  induction described with
  | nil =>
      intro deployments
      rw [List.forall₂_nil_right_iff, ofDescriptions, Except.ok.injEq, eq_comm]
  | cons first rest ih =>
      intro deployments
      rw [List.forall₂_cons_right_iff]
      constructor
      · intro read
        obtain ⟨deployment, head, read⟩ := bind_eq_ok.mp read
        obtain ⟨later, tail, made⟩ := bind_eq_ok.mp read
        cases made
        exact ⟨deployment, later, ofDescription_eq_ok_iff.mp head, ih.mp tail, rfl⟩
      · rintro ⟨deployment, later, head, tail, rfl⟩
        exact bind_eq_ok.mpr ⟨deployment, ofDescription_eq_ok_iff.mpr head,
          bind_eq_ok.mpr ⟨later, ih.mpr tail, rfl⟩⟩

/-- A copy is primary and steady if what it copies is. -/
theorem Copies.isSteadyPrimary_iff {d : Deployment} {described : DeploymentDescription}
    (copy : d.Copies described) :
    (d.isPrimary && d.isSteady) = true ↔
      described.status = primaryStatus ∧ described.desiredCount = described.runningCount := by
  rw [Bool.and_eq_true, isPrimary, isSteady, beq_iff_eq, beq_iff_eq, copy.status,
    copy.desiredCount, copy.runningCount]

end Deployment

/-- Some primary deployment runs as many tasks as it should. -/
def ServiceDescription.HasSteadyPrimary (d : ServiceDescription) : Prop :=
  ∃ deployment ∈ d.deployments, deployment.status = Deployment.primaryStatus ∧
    deployment.desiredCount = deployment.runningCount

/-- The deployments of the snapshot copy those of the description, one for one and in order. -/
def Snapshot.Shows (snapshot : Snapshot) (d : ServiceDescription) : Prop :=
  List.Forall₂ Deployment.Copies snapshot.deployments d.deployments

theorem Snapshot.shows_iff {snapshot : Snapshot} {d : ServiceDescription} :
    snapshot.Shows d ↔ Deployment.ofDescriptions d.deployments = .ok snapshot.deployments :=
  Deployment.ofDescriptions_eq_ok_iff.symm

/-- A snapshot is complete if and only if the description that it shows has a steady primary
deployment. -/
theorem Snapshot.Shows.isComplete_iff {snapshot : Snapshot} {d : ServiceDescription}
    (shown : snapshot.Shows d) : snapshot.isComplete = true ↔ d.HasSteadyPrimary := by
  unfold Snapshot.Shows at shown
  rw [Snapshot.isComplete, ServiceDescription.HasSteadyPrimary]
  generalize snapshot.deployments = deployments at shown
  generalize d.deployments = described at shown
  induction shown with
  | nil => simp
  | cons copy _ ih =>
      rw [List.any_cons, Bool.or_eq_true, copy.isSteadyPrimary_iff, ih, List.exists_mem_cons_iff]

end RolloutWatch
