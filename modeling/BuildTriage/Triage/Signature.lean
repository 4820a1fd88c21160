import BuildTriage.Log.Scan

/-!
# Signatures of failures

A signature is a text that shows up in the log of a build when something has gone wrong. All of them
are looked for in every log. A signature is the text of its pattern, so rules name signatures by the
constants below.
-/

namespace BuildTriage

namespace Signature

/-! ## Regular expressions -/

def healthProbeFailed : String := "Exception trying to GET https://paas.*/healthz/ready"
def serviceCatalogUnreachable : String :=
  "Exception trying to GET https://paas.*/apis/servicecatalog.k8s.io/v1beta1"
def certificatesUnreadable : String :=
  "Unable to read endpoint https://paas.*//apis/certificates.k8s.io/v1beta1"
def builderRequestRefused : String :=
  "Exception trying to POST https://paas.*/v1/namespaces/newcastle-builders"
def builderRequestFailed : String :=
  "Unable to execute request to https://paas.*/v1/namespaces/newcastle-builders"
def adjustUnavailable : String := "Request to endpoint http://repour.*/adjust failed: HTTP/1.0 503"
def adjustGatewayTimeout : String :=
  "Request to endpoint http://repour.*/adjust failed: HTTP/1.0 504"
def analysisRequestFailed : String := "REST communication with http://da.*/da/rest/v-1 failed."
def orchestratorUnknownHost : String := "java.net.UnknownHostException: orch.*"
def analysisSilent : String := "da.*:80 failed to respond"
def adjustInternalError : String :=
  "Request to endpoint http://repour.*/adjust failed: HTTP/1.1 500"
def develEngineUrl : String :=
  "bpmNewBaseUrl=https://devkieserver-newcastle-devel.*/services/rest/server/containers/"
def repositorySilent : String := "indy.*:80 failed to respond"
def repositoryGatewaySilent : String := "indy-gateway.*:443 failed to respond"
def userCannotCreate : String := "User \".*\" cannot create"

/-! ## Literals: platform -/

def unauthorized : String := "Unauthorized to access resource"
def quotaExceeded : String := "exceeded quota: newcastle-builders-quota"
def healthUndetermined : String :=
  "Exception while trying to determine the health/ready response of the server"
def serviceIpNotAllocated : String := "failed to allocate a serviceIP: etcdserver"
def imagePullFailed : String := "Pod failed with status: ErrImagePull"
def serviceNotReady : String := "Service was not ready in: 300 SECONDS"
def quotaConflict : String :=
  "Operation cannot be fulfilled on resourcequotas \"newcastle-builders-quota\""
def conditionTimeout300 : String := "TimeoutException: Condition was not satisfied in: 300 SECONDS"
def conditionTimeout600 : String := "TimeoutException: Condition was not satisfied in: 600 SECONDS"
def resourceNotFound : String := "com.openshift.restclient.NotFoundException: Not Found"
def remoteClientUnreachable : String := "Failed to connect to remote client"
def noRouteToHost : String := "No route to host"
def scriptNotUploaded : String := "Could not upload build script"
def hostUnreachable : String := "No route to host (Host unreachable)"
def brokenPipe : String := "Broken pipe (Write failed)"
def buildAgentGone : String := "Build Agent has gone away"

/-! ## Literals: alignment and repository -/

def alignmentSystemError : String := "Repour completed with system error"
def repositorySetupFailed : String :=
  "Failed to setup repository or repository group for this build"
def repositoryHostUnreachable : String := "Indy request failed: No route to host (Host unreachable)"
def versionsNotObtained : String := "Failed to obtain versions"
def responseStatus500 : String := "Received response status 500"
def readTimedOut : String := "Read timed out"
def groupIdNotFound : String := "Could not find the groupId in the pom.xml"
def manipulationDisabled : String := "-Dmanipulation.disable=true"
def manipulationDisabledCamelCase : String := "-DmanipulationDisable=true"
def noSuchFile : String := "No such file or directory"
def jsonConversionFailed : String := "Could not convert object to JSON"
def repositoryConnectFailed : String := "Indy request failed: Connect to indy"
def internalServerError : String := "Status: 500 Internal Server Error"
def promotionRequestFailed : String :=
  "Error POSTING with PathsPromoteResult result from: promotion/paths/promote"
def existenceCheckFailed : String := "Error checking existence of"
def promotionFailed : String := "RepositoryManagerException: Failed to promote"
def failedToRespond : String := "failed to respond"
def executionRootMalformed : String := "EXECUTION_ROOT_NAME parameter has as value the wrong format"
def pomFileOption : String := "--file="

/-! ## Literals: the build system itself -/

def validationProviderMissing : String := "Add a provider like Hibernate Validator"
def agentClientNotInitialized : String :=
  "Could not initialize class org.jboss.pnc.buildagent.client.BuildAgentSocketClient"
def implementationMissing : String := "Could not find an implementation class"
def conflictingArtifact : String :=
  "Trying to store success build with invalid repository manager result. Conflicting artifact"
def completionCancelled : String :=
  "CompletionException: java.util.concurrent.CancellationException"
def invalidImageName : String := "Throwable: Pod failed with status: InvalidImageName"
def builderNotStarted : String :=
  "The builder pod failed to start (this could be due to misconfigured or bogus scripts, or other unknown reasons)"

/-! ## Literals: process engine -/

def causedByConnectionRefused : String := "Caused by: java.net.ConnectException: Connection refused"
def unexpectedEndOfFile : String := "java.net.SocketException: Unexpected end of file from server"
def responseUnreadable : String := "Unable to retrieve content from response"
def noWorkflowDeployments : String :=
  "No deployments available for com.redhat.maitai.ncl:ncl-workflows:"
def socketReadTimeout : String := "java.net.SocketTimeoutException: Read timed out"
def causedByPersistence : String := "Caused by: org.hibernate.HibernateException"
def databaseFailed : String := "org.hibernate.exception.GenericJDBCException"
def engineCoreStartFailed : String :=
  "CoreException: Error while trying to startBuilding with BpmBuildScheduler"
def engineStartFailed : String := "Error while trying to startBuilding with BpmBuildScheduler."

/-! ## Literals: connections to the repository -/

def connectToRepository : String := "Connect to indy"
def couldNotGet : String := "Could not GET"
def repositoryHttpUrl : String := "http://indy"
def repositoryHttpsUrl : String := "https://indy"
def readTimedOutThen : String := "Read timed out "
def failedConnectionRefused : String := "failed: Connection refused"
def failedConnectTimedOut : String := "failed: connect timed out"

/-! ## Literals: what was built -/

def frontendPlugin : String := "--- frontend-maven-plugin"
def brewPullActive : String := "-DbrewPullActive=true"

/-! ## The catalogue -/

/-- The signatures that are literals. -/
def literals : List String :=
  [unauthorized, quotaExceeded, healthUndetermined, serviceIpNotAllocated, imagePullFailed,
   serviceNotReady, quotaConflict, conditionTimeout300, conditionTimeout600, resourceNotFound,
   remoteClientUnreachable, noRouteToHost, scriptNotUploaded, hostUnreachable, brokenPipe,
   alignmentSystemError, repositorySetupFailed, repositoryHostUnreachable, engineStartFailed,
   buildAgentGone, versionsNotObtained, responseStatus500, readTimedOut, groupIdNotFound,
   manipulationDisabled, manipulationDisabledCamelCase, noSuchFile, jsonConversionFailed,
   repositoryConnectFailed, internalServerError, promotionRequestFailed, existenceCheckFailed,
   promotionFailed, failedToRespond, validationProviderMissing, agentClientNotInitialized,
   implementationMissing, conflictingArtifact, completionCancelled, invalidImageName,
   builderNotStarted, causedByConnectionRefused, unexpectedEndOfFile, responseUnreadable,
   noWorkflowDeployments, socketReadTimeout, causedByPersistence, databaseFailed,
   engineCoreStartFailed, connectToRepository, couldNotGet, repositoryHttpUrl,
   repositoryHttpsUrl, readTimedOutThen, frontendPlugin, executionRootMalformed, pomFileOption,
   failedConnectionRefused, failedConnectTimedOut, brewPullActive]

/-- The signatures that are regular expressions. -/
def regexes : List String :=
  [healthProbeFailed, serviceCatalogUnreachable, certificatesUnreadable, builderRequestRefused,
   builderRequestFailed, adjustUnavailable, adjustGatewayTimeout, analysisRequestFailed,
   orchestratorUnknownHost, analysisSilent, adjustInternalError, develEngineUrl,
   repositorySilent, repositoryGatewaySilent, userCannotCreate]

/-- The pattern set of all signatures, literals first. -/
def catalogue : PatternSet :=
  (PatternSet.ofTexts literals regexes).1

end Signature

/-- The scan for all signatures that has read nothing yet. -/
def signatureScan (limit : Nat) : Scan :=
  .start Signature.catalogue limit

/-- The result for a log that was not read. -/
def unreadLog : ScanResult :=
  .unread Signature.catalogue

end BuildTriage
