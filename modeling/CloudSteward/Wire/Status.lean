import CloudSteward.Condition
import CloudSteward.Status
import CloudSteward.Wire.Role

/-!
# Statuses, reasons and conditions in JSON
-/

namespace CloudSteward

open Json

namespace Phase

def codec : Codec Phase :=
  .enumeration (all.map fun phase => (phase.name, phase)) name

end Phase

namespace Status

def record : Record Status where
  title := "IntegrationStatus"
  blank := new "" ""
  fields := [
    .mandatory "providerName" .string Status.provider
      fun status provider => { status with provider },
    .defaulted "iamAssumedRoleArn" .string Status.arn
      fun status arn => { status with arn },
    .defaulted "roleId" .string Status.roleId
      fun status roleId => { status with roleId },
    .defaulted "atlasAWSAccountArn" .string Status.accountArn
      fun status accountArn => { status with accountArn },
    .defaulted "atlasAssumedRoleExternalId" .string Status.externalId
      fun status externalId => { status with externalId },
    .defaulted "createdDate" (.optional Moment.codec) Status.created
      fun status created => { status with created },
    .defaulted "authorizedDate" (.optional Moment.codec) Status.authorized
      fun status authorized => { status with authorized },
    .sparse "featureUsages" (.list FeatureUsage.codec) List.isEmpty Status.usages
      fun status usages => { status with usages },
    .mandatory "status" Phase.codec Status.phase
      fun status phase => { status with phase },
    .sparse "errorMessage" .string String.isEmpty Status.error
      fun status error => { status with error }]

def codec : Codec Status := record.codec

end Status

namespace Reason

def codec : Codec Reason :=
  .enumeration (all.map fun reason => (reason.name, reason)) name

end Reason

namespace ConditionKind

def codec : Codec ConditionKind :=
  .enumeration (all.map fun kind => (kind.name, kind)) name

end ConditionKind

namespace Condition

def record : Record Condition where
  title := "Condition"
  blank := { kind := .ready, status := false, reason := none, message := none, since := .epoch }
  fields := [
    .mandatory "type" ConditionKind.codec Condition.kind
      fun condition kind => { condition with kind },
    .mandatory "status" .boolean Condition.status
      fun condition status => { condition with status },
    .sparse "reason" (.optional .string) Option.isNone Condition.reason
      fun condition reason => { condition with reason },
    .sparse "message" (.optional .string) Option.isNone Condition.message
      fun condition message => { condition with message },
    .mandatory "lastTransitionTime" Moment.codec Condition.since
      fun condition since => { condition with since }]

def codec : Codec Condition := record.codec

end Condition

namespace Conditions

def codec : Codec Conditions where
  read manner node := ((Codec.list Condition.codec).read manner node).map Conditions.mk
  write conditions := (Codec.list Condition.codec).write conditions.entries

end Conditions

end CloudSteward
