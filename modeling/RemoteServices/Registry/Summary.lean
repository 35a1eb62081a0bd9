import RemoteServices.Registry
import RemoteServices.Text.Quoted

/-!
# One-line summaries

How the parts of a registry are shown to someone who looks into it.
-/
namespace RemoteServices

variable {O : Objects}

def summary (name : String) (fields : List (String × String)) : String :=
  name ++ " \x7b " ++ ", ".intercalate (fields.map fun (k, v) => k ++ ": " ++ v) ++ " \x7d"

/-- Texts between quotes, in braces. -/
def quotedSet (ss : List String) : String :=
  "\x7b" ++ ", ".intercalate (ss.map Text.quoted) ++ "\x7d"

namespace Factory

def exportSummary (f : Factory) : String := "Factory::Export(" ++ f.serviceName ++ ")"

def importSummary (f : Factory) : String := "Factory::Import(" ++ f.serviceName ++ ")"

end Factory

def Export.summary (e : Export O) : String :=
  RemoteServices.summary "ExportRegistration" [("export_id", toString e.exportId),
    ("service_id", Text.int64Text e.serviceId), ("endpoint_id", Text.quoted e.description.id),
    ("interface", Text.quoted e.interface)]

def Import.summary (i : Import O) : String :=
  RemoteServices.summary "ImportRegistration"
    [("endpoint_id", Text.quoted i.endpointId), ("interface", Text.quoted i.interface)]

def Bookkeeping.summary (interface : String) (b : Bookkeeping) : String :=
  RemoteServices.summary "ImportRegistrationFactory" [("interface", Text.quoted interface),
    ("endpoints", quotedSet b.endpoints), ("registrations", Text.quotedList b.registrations),
    ("bound", toString b.factory.isSome)]

namespace Registry

def bookkeepingSummary (r : Registry O) (interface : String) : String :=
  match r.bookkeeping.get? interface with
  | some b => "Some(" ++ b.summary interface ++ ")"
  | none => "None"

def administratorSummary (r : Registry O) : String :=
  RemoteServices.summary "RemoteServiceAdmin" [("framework_uuid", Text.quoted r.frameworkUuid)]

end Registry

def Endpoint.invokerSummary (d : Endpoint) : String :=
  summary "RemoteInvoker" [("endpoint", Text.quoted d.id)]

end RemoteServices
