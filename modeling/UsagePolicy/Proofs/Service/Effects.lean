import UsagePolicy.Proofs.Policies.Saving
import UsagePolicy.Proofs.Service.Tasks

/-!
# What tasks may do

No task assigns an identifier that was not drawn for it, so each of them at most completes the
catalog. Most tasks only read; the others start and stop the service, save a policy or delete one.
-/
namespace UsagePolicy

variable {env : Environment} {given : String → Prop}

open Program

theorem Datasets.performs_present {allowed : Operation → Prop} (d : CatalogDataset) :
    (Datasets.present d).Performs env allowed := by
  unfold Datasets.present
  split
  · exact performs_pure _
  · exact performs_failed _

namespace Policies

theorem performs_entry {allowed : Operation → Prop} (stored : StoredPolicy) :
    (entry stored).Performs env allowed := by
  refine (performs_forEach (fun name => ?_) entryFields).bind fun fields =>
    performs_ofChecked _ _
  refine Performs.bind ?_ fun v => performs_pure _
  unfold Datasets.fieldOf
  split
  · exact performs_pure _
  · exact performs_failed _

theorem performs_list (datasetId : Int) :
    (list datasetId).Performs env (Operation.Reads given) := by
  apply Performs.bind Datasets.performs_requireConnection
  intro _
  apply Performs.bind (performs_operation trivial)
  intro reply
  exact (performs_ofExcept _ reply).bind fun found => performs_forEach performs_entry found

theorem performs_readId (text : String) :
    (readId text).Performs env (Operation.Reads given) := by
  apply Performs.bind (performs_operation trivial)
  intro id
  split
  · exact performs_pure _
  · exact performs_failed _

theorem performs_delete (reference : Reference) :
    (delete reference).Performs env (Operation.Completes given) := by
  refine Performs.bind ?_ fun id => ?_
  · unfold Reference.resolve
    split
    · exact ((performs_readId _).allow fun _ => Operation.Reads.completes).bind
        fun _ => performs_pure _
    · exact performs_pure _
    · exact performs_failed _
  · refine (Datasets.performs_requireConnection.allow fun _ => Operation.Reads.completes).bind
      fun _ => ?_
    apply Performs.bind (performs_operation trivial)
    intro reply
    apply Performs.bind (performs_ofExcept _ reply)
    intro removed
    split
    · exact performs_pure ()
    · exact performs_failed _

end Policies

namespace Lifecycle

theorem performs_start : start.Performs env (Operation.Completes given) :=
  (performs_operation trivial).bind fun _ => (performs_operation trivial).bind fun _ =>
    (performs_operation trivial).bind fun _ => performs_operation trivial

theorem performs_stop : stop.Performs env (Operation.Completes given) := by
  have hclose : closeClient.Performs env (Operation.Completes given) := by
    apply Performs.bind (performs_operation trivial)
    intro client
    split
    · exact performs_operation trivial
    · exact performs_pure ()
  exact hclose.bind fun _ => (performs_operation trivial).bind fun _ => performs_operation trivial

theorem performs_database : database.Performs env (Operation.Reads given) := by
  apply Performs.bind (performs_operation trivial)
  intro handle
  split
  · exact performs_pure _
  · exact performs_failed _

end Lifecycle

namespace Task

/-- The task neither starts or stops the service nor changes the stored policies. -/
def OnlyReads : Task → Prop
  | start | stop | save _ | delete _ => False
  | _ => True

theorem performs_reads (hdraws : ∀ n, given (env.identifier n)) {task : Task}
    (h : task.OnlyReads) : task.program.Performs env (Operation.Reads given) := by
  cases task with
  | start | stop | save request | delete reference => exact h.elim
  | database => exact Lifecycle.performs_database.bind fun _ => performs_pure _
  | listDatasets =>
    apply Performs.bind (Datasets.performs_list hdraws)
    intro ds
    exact (performs_forEach Datasets.performs_present ds).bind fun _ => performs_pure _
  | findDataset id =>
    apply Performs.bind (Datasets.performs_find hdraws id)
    intro d
    exact (Datasets.performs_present d).bind fun _ => performs_pure _
  | generate request =>
    exact (Policies.performs_generate trivial _ _ _).bind fun _ => performs_pure _
  | generateFor datasetId config =>
    refine Performs.bind ?_ fun _ => performs_pure _
    exact (Datasets.performs_find hdraws datasetId).bind fun d =>
      Policies.performs_generate trivial _ _ _
  | listPolicies datasetId => exact (Policies.performs_list datasetId).bind fun _ => performs_pure _

theorem OnlyReads.untouched_run {task : Task} (h : task.OnlyReads) (env : Environment)
    (s : Session) : s.Untouched (task.program.run env s).2 := by
  have hperforms : task.program.Performs env (Operation.Reads fun _ => True) :=
    task.performs_reads (fun _ => trivial) h
  exact Operation.Reads.untouched_run hperforms s

theorem performs_completes (hdraws : ∀ n, given (env.identifier n)) (task : Task) :
    task.program.Performs env (Operation.Completes given) := by
  cases task with
  | start => exact Lifecycle.performs_start.bind fun _ => performs_pure _
  | stop => exact Lifecycle.performs_stop.bind fun _ => performs_pure _
  | save request =>
    refine Performs.bind ?_ fun _ => performs_pure _
    exact ((Datasets.performs_find hdraws _).allow fun _ => Operation.Reads.completes).bind fun d =>
      Policies.performs_saveOn d request.config
  | delete reference => exact (Policies.performs_delete reference).bind fun _ => performs_pure _
  | database | listDatasets | findDataset | generate | generateFor | listPolicies =>
    refine (performs_reads hdraws ?_).allow fun _ => Operation.Reads.completes
    trivial

end Task
end UsagePolicy
