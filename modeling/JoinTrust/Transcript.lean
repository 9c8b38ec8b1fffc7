import JoinTrust.Command

set_option autoImplicit false

/-! What a conversation did, read off its events. -/

namespace JoinTrust

abbrev Transcript : Type := List (Event Command Command.Answer)

namespace Transcript

def requests (transcript : Transcript) : List (Client × Request) :=
  transcript.filterMap fun
    | ⟨.get client request, _⟩ => some (client, request)
    | _ => none

def created (transcript : Transcript) : List Client :=
  transcript.filterMap fun
    | ⟨.create options, .ok serial⟩ => some ⟨options, serial⟩
    | _ => none

/-- The clients that were closed, even if closing failed. -/
def closed (transcript : Transcript) : List Client :=
  transcript.filterMap fun
    | ⟨.close client, _⟩ => some client
    | _ => none

/-- The audit entries, even those that the trail did not take. -/
def entries (transcript : Transcript) : List Audit.Entry :=
  transcript.filterMap fun
    | ⟨.audit entry, _⟩ => some entry
    | _ => none

def lookups (transcript : Transcript) : List String :=
  transcript.filterMap fun
    | ⟨.resolve token, _⟩ => some token
    | ⟨.unsealToken reference, _⟩ => some reference
    | _ => none

def hardwareFetches (transcript : Transcript) : List (Option Bytes × String) :=
  transcript.filterMap fun
    | ⟨.fetchHardware bundle url, _⟩ => some (bundle, url)
    | _ => none

def bounds (transcript : Transcript) : List Nat :=
  transcript.filterMap fun
    | ⟨.draw bound, _⟩ => some bound
    | _ => none

def lines (transcript : Transcript) : List Workflow.Line :=
  transcript.filterMap fun
    | ⟨.print line, _⟩ => some line
    | _ => none

def withAuditLines (timestamp : String) (transcript : Transcript) : List Workflow.Line :=
  transcript.filterMap fun
    | ⟨.print line, _⟩ => some line
    | ⟨.audit entry, _⟩ => some (.audit (entry.line timestamp))
    | _ => none

def text (lines : List Workflow.Line) : String :=
  String.join (lines.map Workflow.Line.text)

end Transcript

end JoinTrust
