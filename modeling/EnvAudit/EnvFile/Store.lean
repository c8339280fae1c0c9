import EnvAudit.EnvFile.Parser
import EnvAudit.Failure

namespace EnvAudit.EnvFile

def readFailure (path : String) : ReadFault → Failure
  | .path ⟨.nul, name⟩ => .path ⟨.nul, name⟩
  | .path error => .unreadable path error.fault.reason
  | .encoding fault => .unreadable path fault.message

def load (w : Workspace) (path : String) : Except Failure EnvFile :=
  match w.readRaw path with
  | .ok text => .ok (parse text)
  | .error fault => .error (readFailure path fault)

end EnvAudit.EnvFile
