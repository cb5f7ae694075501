import CredentialWatch.Report.Json
import CredentialWatch.Report.Style
import CredentialWatch.Store.LoadError

/-!
# Summaries of stores

A summary says where a store came from, whether it is watched, and for each credential its alias,
kind, number of certificates and creation time; it has no place for keys, certificates or passwords.
Summaries are shown as terminal text or as JSON.
-/
namespace CredentialWatch.Report

structure EntrySummary where
  name : String
  isKey : Bool
  certificates : Nat
  created? : Option String
  deriving DecidableEq, Repr

structure StoreSummary where
  role : String
  location? : Option String
  storeType : String
  watchedPath? : Option String
  entries : List EntrySummary
  deriving DecidableEq, Repr

namespace EntrySummary

def ofCredential (credential : Credential) : EntrySummary :=
  ⟨credential.name, credential.isKey, credential.certificates.length,
    credential.created.map Instant.text⟩

def kind (entry : EntrySummary) : String :=
  if entry.isKey then "private-key" else "trusted-certificate"

def line (entry : EntrySummary) : String :=
  let created := (entry.created?.map (", created " ++ ·)).getD ""
  "  " ++ Style.entryName.paint entry.name ++ " " ++
    Style.description.paint s!"{entry.kind}, {entry.certificates} certificate(s){created}"

def json (entry : EntrySummary) : Json :=
  .record [("alias", .text entry.name), ("kind", .text entry.kind),
    ("certificates", .number entry.certificates),
    ("created", (entry.created?.map Json.text).getD .null)]

end EntrySummary

namespace StoreSummary

/-- The lines of a summary: a header, what is watched, and a line for each credential. -/
def lines (summary : StoreSummary) : List String :=
  let location := summary.location?.getD unnamedLocation
  let header := Style.header.paint s!"{summary.role} ({summary.storeType}) at {location}"
  let watched := summary.watchedPath?.toList.map fun path =>
    Style.description.paint s!"  watching {path}"
  let none := if summary.entries.isEmpty then [Style.description.paint "  no entries"] else []
  header :: watched ++ none ++ summary.entries.map EntrySummary.line

def text (summary : StoreSummary) : String :=
  String.intercalate "\n" summary.lines

def json (summary : StoreSummary) : Json :=
  .record [("role", .text summary.role),
    ("location", (summary.location?.map Json.text).getD .null),
    ("store_type", .text summary.storeType),
    ("watched_path", (summary.watchedPath?.map Json.text).getD .null),
    ("entries", .list (summary.entries.map EntrySummary.json))]

end StoreSummary

/-- Summaries as one JSON text. -/
def jsonText (summaries : List StoreSummary) : String :=
  (Json.list (summaries.map StoreSummary.json)).pretty

end CredentialWatch.Report
