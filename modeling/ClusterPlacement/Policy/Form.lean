import ClusterPlacement.Json.Codec
import ClusterPlacement.Policy
/-! The JSON forms of policies and their parts. -/

namespace ClusterPlacement

open Json (Codec Field)

def ClusterSource.name : ClusterSource → String
  | assign => "assign"
  | clusterSet => "cluster_set"

def ClusterSource.form : Codec ClusterSource :=
  Codec.variant [("assign", .assign), ("cluster_set", .clusterSet)] name

def ScheduleMode.name : ScheduleMode → String
  | duplicated => "duplicated"
  | weighted => "weighted"

def ScheduleMode.form : Codec ScheduleMode :=
  Codec.variant [("duplicated", .duplicated), ("weighted", .weighted)] name

def FailoverKind.name : FailoverKind → String
  | cluster => "clusters"
  | clusterSet => "cluster_set"

def FailoverKind.form : Codec FailoverKind :=
  Codec.variant [("clusters", .cluster), ("cluster_set", .clusterSet)] name

def PolicyEntry.form : Codec PolicyEntry :=
  Codec.record "PolicyEntry"
    [.optional "name" .string, .optional "role" .string, .withDefault "weight" .word32 0,
      .optional "min" .word32, .optional "max" .word32]
    (fun (name, role, weight, min, max, ()) => ⟨name, role, weight, min, max⟩)
    (fun e => (e.name, e.role, e.weight, e.min, e.max, ()))

def FailoverEntry.form : Codec FailoverEntry :=
  Codec.record "FailoverEntry" [.required "name" .string, .required "type" FailoverKind.form]
    (fun (name, kind, ()) => ⟨name, kind⟩) (fun e => (e.name, e.kind, ()))

def PolicySpec.form : Codec PolicySpec :=
  Codec.record "SchedulePolicySpec"
    [.required "resources" (.list .string), .required "cluster_source" ClusterSource.form,
      .optional "clusterset" .string, .withDefault "replicas" .word32 0,
      .withDefault "schedule_mode" ScheduleMode.form .duplicated,
      .withDefault "policy" (.list PolicyEntry.form) [],
      .withDefault "failover_policy" (.list FailoverEntry.form) [],
      .withDefault "reschedule" .boolean false]
    (fun (resources, source, clusterSet, replicas, mode, entries, failover, reschedule, ()) =>
      ⟨resources, source, clusterSet, replicas, mode, entries, failover, reschedule⟩)
    (fun s => (s.resources, s.source, s.clusterSet, s.replicas, s.mode, s.entries, s.failover,
      s.reschedule, ()))

def PolicyStatus.form : Codec PolicyStatus :=
  Codec.record "SchedulePolicyStatus"
    [.optionalInObject "last_schedule_time" .word64, .optionalInObject "last_modify_time" .word64]
    (fun (schedule, modify, ()) => ⟨schedule, modify⟩)
    (fun s => (s.lastScheduleTime, s.lastModifyTime, ()))

def Policy.form : Codec Policy :=
  Codec.record "SchedulePolicy"
    [.required "namespace" .string, .required "name" .string, .required "uid" .string,
      .required "spec" PolicySpec.form, .withDefault "status" PolicyStatus.form .never]
    (fun (ns, name, uid, spec, status, ()) => ⟨ns, name, uid, spec, status⟩)
    (fun p => (p.ns, p.name, p.uid, p.spec, p.status, ()))

def Owner.form : Codec Owner :=
  Codec.record "OwnerReference"
    [.required "kind" .string, .required "name" .string, .required "uid" .string]
    (fun (kind, name, uid, ()) => ⟨kind, name, uid⟩) (fun o => (o.kind, o.name, o.uid, ()))

end ClusterPlacement
