import Dosm.Certs.Sources
import Dosm.Docs.Folders
import Dosm.Docs.Routes
import Dosm.Hosts.Routes
import Dosm.Monitoring.Sources
import Dosm.Network.Scanner
import Dosm.Org.Routes
import Dosm.Pipelines.Payloads

namespace Dosm.Tenancy

open Models Python Web

/-! Everything that tenants own, and the requests that may change it. -/

structure Workspace where
  world : Agent.World
  runs : Table PipelineRun
  payloads : Table Pipelines.Payload
  org : Org.OrgState
  ports : Table Network.NetworkPort
  scans : Network.Scans
  store : Docs.Store.DocsStore
  index : Docs.Indexer.IndexDb
  sources : Table Monitoring.MonitoringSource
  certSources : Table Certs.CertSource

/-- What the handlers are given besides the tables. -/
structure Environment where
  adapters : Pipelines.Adapters
  lower : String → String
  asciiFold : String → String
  docsTools : Docs.Routes.Tools
  docsClock : Docs.Routes.Clock
  username : String
  indexTools : Docs.Indexer.Tools
  indexConfig : Docs.Indexer.DocsIndexConfig
  around : Docs.Indexer.Surroundings

/-- The handlers behind the routes of hosts, credentials, pipelines, departments,
network scans, docs, monitoring sources and certificates that are not reads. -/
inductive Route where
  | hostsCreate | hostsPing | hostsUpdate | hostsDelete | hostsAssignOrg
  | credentialsCreate | myCredentialsNew | credentialsAssignOrg | credentialsRename | myCredentialsSet
  | myCredentialsClear | credentialsUpdate | credentialsDelete
  | pipelinesCreate | pipelinesAssignOrg | pipelinesUpdate | pipelinesDelete | pipelinesTrigger
  | pipelinesRunRefresh | payloadCreate | payloadUpdate | payloadRename | payloadCopy | payloadDelete
  | orgConfigureSave | orgConfigureTest | orgCreate | orgSync | orgUpdate | orgDelete
  | portCheckerRun | mapCreate | mapRerun | mapRename | mapDelete
  | docsReindex | docsSave | docsConvert | docsPreview | docsDelete | docsImport | foldersCreate | folderDelete
  | createSource | updateSource | deleteSource
  | certsRefresh | certSourceCreate | certSourceToggle | certSourceDelete | certSourceTest
  deriving DecidableEq

/-- The routes that answer from what they read, from the network, or into the
configuration file. -/
inductive Probe where
  | hostsPing | orgConfigureSave | orgConfigureTest | portCheckerRun | docsConvert | docsPreview | docsImport
  | certsRefresh | certSourceTest

def Probe.route : Probe → Route
  | .hostsPing => .hostsPing
  | .orgConfigureSave => .orgConfigureSave
  | .orgConfigureTest => .orgConfigureTest
  | .portCheckerRun => .portCheckerRun
  | .docsConvert => .docsConvert
  | .docsPreview => .docsPreview
  | .docsImport => .docsImport
  | .certsRefresh => .certsRefresh
  | .certSourceTest => .certSourceTest

inductive Request where
  | hostsCreate (form : Hosts.HostArgs)
  | hostsUpdate (id : Int) (form : Hosts.HostArgs)
  | hostsDelete (id : Int)
  | hostsAssignOrg (id : Int) (orgUnitId : Option Int)
  | credentialsCreate (form : Credentials.CredentialForm) (backendUp : Bool)
  | myCredentialsNew (name : String)
  | credentialsAssignOrg (id : Int) (orgUnitId : Option Int)
  | credentialsRename (id : Int) (newName : String)
  | myCredentialsSet (id : Int) (material : String)
  | myCredentialsClear (id : Int)
  | credentialsUpdate (id : Int) (form : Credentials.CredentialForm) (backendUp : Bool)
  | credentialsDelete (id : Int)
  | pipelinesCreate (form : Pipelines.PipelineArgs)
  | pipelinesAssignOrg (id : Int) (orgUnitId : Option Int)
  | pipelinesUpdate (id : Int) (form : Pipelines.PipelineArgs)
  | pipelinesDelete (id : Int)
  | pipelinesTrigger (id : Int) (inputs : Except String String) (triggeredAt now : Int)
      (answer : Except String Pipelines.TriggerResult)
  | pipelinesRunRefresh (id now : Int) (answer : Except String Pipelines.PollResult)
  | payloadCreate (pid : Int) (form : Pipelines.PayloadForm)
  | payloadUpdate (pid payloadId : Int) (form : Pipelines.PayloadForm)
  | payloadRename (pid payloadId : Int) (name : String)
  | payloadCopy (pid payloadId : Int)
  | payloadDelete (pid payloadId : Int)
  | orgCreate (form : Org.DeptForm) (configured : Bool) (directory : Org.Directory)
  | orgSync (slug : String) (configured : Bool) (directory : Org.Directory)
  | orgUpdate (slug : String) (form : Org.DeptForm) (directory : Org.Directory)
  | orgDelete (slug : String)
  | mapCreate (title defaultTitle : String) (form : Network.ScanForm)
  | mapRerun (sid : Int)
  | mapRename (sid : Int) (title : String)
  | mapDelete (sid : Int)
  | docsReindex (force : Bool)
  | docsSave (path : String) (form : Docs.Routes.SaveForm)
  | docsDelete (path : String)
  | foldersCreate (form : Docs.Folders.FolderForm)
  | folderDelete (slug : String)
  | createSource (form : Monitoring.SourceForm)
  | updateSource (id : Int) (form : Monitoring.SourceForm)
  | deleteSource (id : Int)
  | certSourceCreate (form : Certs.CertForm)
  | certSourceToggle (id : Int)
  | certSourceDelete (id : Int)
  | probe (asked : Probe)

def Request.route : Request → Route
  | .hostsCreate .. => .hostsCreate
  | .hostsUpdate .. => .hostsUpdate
  | .hostsDelete .. => .hostsDelete
  | .hostsAssignOrg .. => .hostsAssignOrg
  | .credentialsCreate .. => .credentialsCreate
  | .myCredentialsNew .. => .myCredentialsNew
  | .credentialsAssignOrg .. => .credentialsAssignOrg
  | .credentialsRename .. => .credentialsRename
  | .myCredentialsSet .. => .myCredentialsSet
  | .myCredentialsClear .. => .myCredentialsClear
  | .credentialsUpdate .. => .credentialsUpdate
  | .credentialsDelete .. => .credentialsDelete
  | .pipelinesCreate .. => .pipelinesCreate
  | .pipelinesAssignOrg .. => .pipelinesAssignOrg
  | .pipelinesUpdate .. => .pipelinesUpdate
  | .pipelinesDelete .. => .pipelinesDelete
  | .pipelinesTrigger .. => .pipelinesTrigger
  | .pipelinesRunRefresh .. => .pipelinesRunRefresh
  | .payloadCreate .. => .payloadCreate
  | .payloadUpdate .. => .payloadUpdate
  | .payloadRename .. => .payloadRename
  | .payloadCopy .. => .payloadCopy
  | .payloadDelete .. => .payloadDelete
  | .orgCreate .. => .orgCreate
  | .orgSync .. => .orgSync
  | .orgUpdate .. => .orgUpdate
  | .orgDelete .. => .orgDelete
  | .mapCreate .. => .mapCreate
  | .mapRerun .. => .mapRerun
  | .mapRename .. => .mapRename
  | .mapDelete .. => .mapDelete
  | .docsReindex .. => .docsReindex
  | .docsSave .. => .docsSave
  | .docsDelete .. => .docsDelete
  | .foldersCreate .. => .foldersCreate
  | .folderDelete .. => .folderDelete
  | .createSource .. => .createSource
  | .updateSource .. => .updateSource
  | .deleteSource .. => .deleteSource
  | .certSourceCreate .. => .certSourceCreate
  | .certSourceToggle .. => .certSourceToggle
  | .certSourceDelete .. => .certSourceDelete
  | .probe asked => asked.route

namespace Workspace

variable (env : Environment) (space : Workspace) (caller : Caller)

def withWorld (answer : Agent.World × Reply) : Workspace := { space with world := answer.1 }

def withRuns (answer : Except Reply (Table PipelineRun)) : Workspace :=
  { space with runs := answer.toOption.getD space.runs }

def withPayloads (answer : Except Reply (Table Pipelines.Payload)) : Workspace :=
  { space with payloads := answer.toOption.getD space.payloads }

def withOrg (answer : Org.OrgState × Except Org.Failure String) : Workspace := { space with org := answer.1 }

def withScans (answer : Except Reply Network.Scans) : Workspace :=
  { space with scans := answer.toOption.getD space.scans }

def withIndex (answer : Except Reply Docs.Indexer.IndexDb) : Workspace :=
  { space with index := answer.toOption.getD space.index }

/-- The tokens of the sources are in the secrets backend. -/
def withSources (answer : Except Reply Monitoring.Sources) : Workspace :=
  match answer with
  | .error _ => space
  | .ok { sources, secrets } => { space with sources, world := { space.world with secrets } }

def withCertSources (answer : Except Reply (Table Certs.CertSource)) : Workspace :=
  { space with certSources := answer.toOption.getD space.certSources }

def docsSite : Docs.Routes.Site := ⟨space.store, space.index.documents.rows, space.index.folders.rows⟩

def docsCaller : Docs.Routes.Caller := ⟨caller.tid, caller.userId, env.username⟩

def docsRequest (path : String) (route : Docs.Routes.Route) : Workspace :=
  { space with store :=
    (Docs.Routes.handle env.docsTools env.docsClock space.docsSite (docsCaller env caller) path route).store }

/-- Results of scans that start at a deleted host lose it. -/
def hostsDelete (id : Int) : Workspace :=
  let deleted := space.withWorld (Hosts.hostsDelete space.world caller id)
  match Hosts.hostOr404 space.world.db caller id with
  | .error _ => deleted
  | .ok host =>
      { deleted with scans := { space.scans with results := Network.deleteHost space.scans.results host.id } }

def loseCredential (gone : Bool) (id : Int) (source : Certs.CertSource) : Certs.CertSource :=
  { source with credentialId := source.credentialId.filter fun cred => !(gone && cred = id) }

/-- Certificate sources lose a deleted credential. -/
def credentialsDelete (id : Int) : Workspace :=
  let answer := Credentials.credentialsDelete space.world caller id
  let gone := (space.world.db.credentials.get id).isSome && (answer.1.db.credentials.get id).isNone
  { space.withWorld answer with certSources := space.certSources.map (loseCredential gone id) }

def pipelinesDelete (id : Int) : Workspace :=
  match Pipelines.pipelinesDelete space.world.db space.runs space.payloads caller id with
  | .error _ => space
  | .ok (db, runs, payloads) => { space with world := { space.world with db }, runs, payloads }

def orgCreate (form : Org.DeptForm) (configured : Bool) (directory : Org.Directory) : Workspace :=
  match requireActiveTenant caller with
  | .error _ => space
  | .ok tenant => space.withOrg (Org.orgCreate env.lower space.org tenant form configured directory)

def monitoring : Monitoring.Sources := ⟨space.sources, space.world.secrets⟩

def handle : Request → Workspace
  | .hostsCreate form => space.withWorld (Hosts.hostsCreate space.world caller form)
  | .hostsUpdate id form => space.withWorld (Hosts.hostsUpdate space.world caller id form)
  | .hostsDelete id => space.hostsDelete caller id
  | .hostsAssignOrg id orgUnitId => space.withWorld (Hosts.hostsAssignOrg space.world caller id orgUnitId)
  | .credentialsCreate form backendUp =>
      space.withWorld (Credentials.credentialsCreate space.world caller form backendUp)
  | .myCredentialsNew name => space.withWorld (Credentials.myCredentialsNew space.world caller name)
  | .credentialsAssignOrg id orgUnitId =>
      space.withWorld (Credentials.credentialsAssignOrg space.world caller id orgUnitId)
  | .credentialsRename id newName => space.withWorld (Credentials.credentialsRename space.world caller id newName)
  | .myCredentialsSet id material => space.withWorld (Credentials.myCredentialsSet space.world caller id material)
  | .myCredentialsClear id => space.withWorld (Credentials.myCredentialsClear space.world caller id)
  | .credentialsUpdate id form backendUp =>
      space.withWorld (Credentials.credentialsUpdate space.world caller id form backendUp)
  | .credentialsDelete id => space.credentialsDelete caller id
  | .pipelinesCreate form => space.withWorld (Pipelines.pipelinesCreate env.adapters space.world caller form)
  | .pipelinesAssignOrg id orgUnitId =>
      space.withWorld (Pipelines.pipelinesAssignOrg space.world caller id orgUnitId)
  | .pipelinesUpdate id form => space.withWorld (Pipelines.pipelinesUpdate env.adapters space.world caller id form)
  | .pipelinesDelete id => space.pipelinesDelete caller id
  | .pipelinesTrigger id inputs triggeredAt now answer =>
      space.withRuns
        (Pipelines.pipelinesTrigger space.world.db space.runs caller id inputs triggeredAt now answer)
  | .pipelinesRunRefresh id now answer =>
      space.withRuns (Pipelines.pipelinesRunRefresh space.world.db space.runs caller id now answer)
  | .payloadCreate pid form =>
      space.withPayloads (Pipelines.payloadCreate space.world.db space.payloads caller pid form)
  | .payloadUpdate pid payloadId form =>
      space.withPayloads (Pipelines.payloadUpdate space.world.db space.payloads caller pid payloadId form)
  | .payloadRename pid payloadId name =>
      space.withPayloads (Pipelines.payloadRename space.world.db space.payloads caller pid payloadId name)
  | .payloadCopy pid payloadId =>
      space.withPayloads (Pipelines.payloadCopy space.world.db space.payloads caller pid payloadId)
  | .payloadDelete pid payloadId =>
      space.withPayloads (Pipelines.payloadDelete space.world.db space.payloads caller pid payloadId)
  | .orgCreate form configured directory => space.orgCreate env caller form configured directory
  | .orgSync slug configured directory =>
      space.withOrg (Org.orgSync space.org slug caller.tid configured directory)
  | .orgUpdate slug form directory => space.withOrg (Org.orgUpdate space.org slug caller.tid form directory)
  | .orgDelete slug => space.withOrg (Org.orgDelete space.org slug caller.tid)
  | .mapCreate title defaultTitle form =>
      space.withScans (Network.mapNew space.world.db space.ports space.scans caller title defaultTitle form)
  | .mapRerun sid => space.withScans (Network.mapRerun space.world.db space.ports space.scans caller sid)
  | .mapRename sid title => space.withScans (Network.mapRename space.scans caller sid title)
  | .mapDelete sid => space.withScans (Network.mapDelete space.scans caller sid)
  | .docsReindex force =>
      space.withIndex (Docs.Folders.docsReindex env.indexTools env.indexConfig env.around space.store
        space.index caller force)
  | .docsSave path form => space.docsRequest env caller path (.save form)
  | .docsDelete path => space.docsRequest env caller path .delete
  | .foldersCreate form => space.withIndex (Docs.Folders.foldersCreate env.asciiFold space.index caller form)
  | .folderDelete slug => space.withIndex (Docs.Folders.folderDelete space.index caller slug)
  | .createSource form => space.withSources (Monitoring.createSource space.monitoring caller form)
  | .updateSource id form => space.withSources (Monitoring.updateSource space.monitoring caller id form)
  | .deleteSource id => space.withSources (Monitoring.deleteSource space.monitoring caller id)
  | .certSourceCreate form =>
      space.withCertSources (Certs.certSourceCreate space.world.db space.certSources caller form)
  | .certSourceToggle id => space.withCertSources (Certs.certSourceToggle space.certSources caller id)
  | .certSourceDelete id => space.withCertSources (Certs.certSourceDelete space.certSources caller id)
  -- Their answers and their audit rows aside, these leave everything as it is.
  | .probe _ => space

end Workspace

end Dosm.Tenancy
