import BuildTriage.Triage.Rule

/-!
# The rule table

The rules are tried in order and the first that applies gives the verdict, so the more
particular rule stands before the more general one. Failures of the platform come first.
-/

namespace BuildTriage

namespace Rule

open Signature

/-- A failure of the platform that is reported in the words of the log. -/
def reported (signature : String) : Rule :=
  { predicate := .build signature, group := .platform, wording := .captured signature }

/-- A failure that is reported in fixed words. -/
def fixed (group : FailureGroup) (predicate : Predicate) (text : String) : Rule :=
  { predicate := predicate, group := group, wording := .fixed text }

/-- A failure that the user caused, though it used to be reported as a system error. -/
def marked (predicate : Predicate) (text : String) : Rule :=
  { predicate := predicate
    group := .buildSystem
    wording := .fixed text
    previouslyMarked := true }

/-- The sources were left as they are. -/
def manipulationOff : Predicate :=
  .any [.alignment manipulationDisabled, .alignment manipulationDisabledCamelCase]

/-- Failures of the platform that are reported in the words of the log. -/
def capturedRules : List Rule :=
  [reported unauthorized,
   reported quotaExceeded,
   reported healthProbeFailed,
   reported healthUndetermined,
   reported serviceCatalogUnreachable,
   reported certificatesUnreadable,
   reported builderRequestRefused,
   reported serviceIpNotAllocated,
   reported adjustUnavailable,
   reported adjustGatewayTimeout,
   reported imagePullFailed,
   reported serviceNotReady,
   reported conditionTimeout300,
   reported conditionTimeout600,
   reported builderRequestFailed,
   reported userCannotCreate,
   reported resourceNotFound,
   reported orchestratorUnknownHost,
   reported brokenPipe]

/-- Failures of the platform that are reported in words of their own. -/
def platformRules : List Rule :=
  [fixed .platform (.build quotaConflict) quotaExceeded,
   fixed .platform (.all [.build remoteClientUnreachable, .build noRouteToHost])
      "Failed to connect to remote client. No route to host. [NCLSUP-162]",
   fixed .platform (.all [.build scriptNotUploaded, .build hostUnreachable])
      "Could not upload build script - No route to host (Host unreachable) [NCLSUP-217]",
   fixed .platform (.all [.build alignmentSystemError, .alignment analysisRequestFailed,
        .alignment hostUnreachable])
      "DA - No route to host (Host unreachable)",
   fixed .platform (.all [.build repositorySetupFailed, .build repositoryHostUnreachable])
      "INDY - No route to host (Host unreachable)",
   fixed .platform (.all [.build engineStartFailed, .build hostUnreachable])
      "MAITAI - No route to host (Host unreachable)",
   fixed .platform (.build buildAgentGone) "Build Agent has gone away (Network issues)"]

/-- Failures of the alignment. The last rule applies to all that the others leave. -/
def alignmentRules : List Rule :=
  [fixed .repository (.all [.build alignmentSystemError, .alignment versionsNotObtained])
      "INDY - Failed to obtain versions",
   fixed .buildSystem (.all [.build alignmentSystemError, .alignment analysisRequestFailed,
        .alignment responseStatus500])
      "DA - Response status 500",
   fixed .buildSystem (.all [.build alignmentSystemError, .alignment analysisRequestFailed,
        .alignment readTimedOut])
      "DA - Read timed out",
   fixed .buildSystem (.all [.build alignmentSystemError, .alignment analysisRequestFailed])
      "DA - REST communication failed",
   fixed .buildSystem (.all [.build alignmentSystemError, .alignment analysisSilent])
      "DA - Failed to respond (da.newcastle.svc.cluster.local:80)",
   marked (.all [.build alignmentSystemError, .alignment groupIdNotFound, manipulationOff])
      "user did not specify BREW_BUILD_VERSION or BREW_BUILD_NAME",
   marked (.all [.build alignmentSystemError, .alignment executionRootMalformed, manipulationOff])
      "user wrongly specified BREW_BUILD_VERSION or BREW_BUILD_NAME",
   marked (.all [.build alignmentSystemError, .alignment noSuchFile, .alignment pomFileOption])
      "user wrongly specified custom pom.xml location",
   marked (.all [.build alignmentSystemError, .alignmentEmpty])
      "Build abortion in alignment phase causes system error [NCLSUP-248]",
   fixed .buildSystem (.build alignmentSystemError) "REPOUR - completed with system error"]

/-- Failures of the build system and of its dealings with the repository. -/
def buildSystemRules : List Rule :=
  [fixed .buildSystem (.build jsonConversionFailed) jsonConversionFailed,
   fixed .repository (.all [.build repositorySetupFailed, .build repositoryConnectFailed])
      "INDY - Failed to respond during repository setup",
   fixed .repository (.all [.build repositorySetupFailed, .build internalServerError])
      "INDY - Response status 500",
   fixed .buildSystem (.build repositorySetupFailed) repositorySetupFailed,
   fixed .repository (.build promotionRequestFailed) "INDY - Failed to promote",
   fixed .buildSystem (.build remoteClientUnreachable)
      "Failed to connect to remote client [NCLSUP-53]",
   fixed .buildSystem (.build adjustInternalError) "REPOUR - Response status 500",
   fixed .buildSystem (.build existenceCheckFailed) "Error checking existence of [NCLSUP-51]",
   fixed .repository (.all [.build promotionFailed, .build failedToRespond])
      "INDY - Failed to respond during promotion",
   fixed .buildSystem (.build promotionFailed) promotionFailed,
   fixed .buildSystem (.build validationProviderMissing)
      "Add a provider like Hibernate Validator [NCLSUP-79]",
   fixed .buildSystem (.build agentClientNotInitialized) agentClientNotInitialized,
   fixed .buildSystem (.build implementationMissing) implementationMissing,
   fixed .buildSystem (.build conflictingArtifact) "Conflicting artifact",
   fixed .buildSystem (.build completionCancelled) completionCancelled,
   fixed .buildSystem (.build invalidImageName)
      "BUILDERS - Throwable: Pod failed with status: InvalidImageName",
   fixed .buildSystem (.build builderNotStarted)
      "BUILDERS - Bogus script detected during builder pod start"]

/-- Failures of the process engine. -/
def engineRules : List Rule :=
  [fixed .buildSystem (.all [.build engineStartFailed,
        .any [.build causedByConnectionRefused, .build unexpectedEndOfFile,
          .build responseUnreadable]])
      "RHPAM - Connection refused",
   fixed .buildSystem (.all [.build engineStartFailed, .build noWorkflowDeployments])
      "RHPAM - No deployments available",
   fixed .buildSystem (.all [.build engineStartFailed, .build socketReadTimeout])
      "RHPAM - Read timed out",
   fixed .buildSystem (.all [.build engineStartFailed,
        .any [.build causedByPersistence, .build databaseFailed]])
      "RHPAM - Persistence exception",
   fixed .buildSystem (.build engineStartFailed) "RHPAM - Error while trying to startBuilding",
   fixed .buildSystem (.all [.build engineCoreStartFailed, .build develEngineUrl])
      "DEVEL - Error while trying to startBuilding with BpmBuildScheduler on new RHPAM server"]

/-- Failures of connections to the repository. -/
def repositoryRules : List Rule :=
  [fixed .repository (.all [.build connectToRepository, .build failedConnectionRefused])
      "INDY - Connection refused",
   fixed .repository (.all [.build connectToRepository, .build failedConnectTimedOut])
      "INDY - Connection timeout",
   fixed .repository (.build repositorySilent) "INDY - Failed to respond",
   fixed .repository (.build repositoryGatewaySilent) "INDY - Failed to respond",
   fixed .repository (.all [.build couldNotGet, .build repositoryHttpUrl, .build readTimedOutThen])
      "INDY - Read timed out",
   fixed .repository (.all [.build couldNotGet, .build repositoryHttpsUrl,
        .build readTimedOutThen])
      "INDY - Read timed out"]

/-- All rules, in the order in which they are tried. -/
def table : List Rule :=
  capturedRules ++ platformRules ++ alignmentRules ++ buildSystemRules ++ engineRules
    ++ repositoryRules

end Rule

end BuildTriage
