import CompilerRelay.Editor.Diagnostic

/-!
The ledger of what the editor shows.

A document is tracked while the editor shows diagnostics for it, so the ledger
never holds an empty list.  Each operation yields the publications that bring
the editor up to date.
-/

namespace CompilerRelay

/-- The diagnostics a document is to show from now on, in place of all it showed
before. -/
structure Publication where
  uri : Uri
  diagnostics : List Diagnostic
  deriving DecidableEq, Repr

namespace Publication

/-- Whether a publication only takes diagnostics away. -/
def isRetraction (publication : Publication) : Bool :=
  publication.diagnostics.isEmpty

def toJson (publication : Publication) : Json :=
  .obj [("diagnostics", .arr (publication.diagnostics.map Diagnostic.toJson)),
    ("uri", publication.uri.toJson)]

end Publication

/-- The tracked documents and what they show.  A document that shows nothing is
not tracked, so its entry is taken out when that is published. -/
structure Ledger where
  entries : List (Uri × List Diagnostic)
  deriving Repr

namespace Ledger

def empty : Ledger :=
  ⟨[]⟩

/-- What a document shows, if it is tracked. -/
def get? (ledger : Ledger) (uri : Uri) : Option (List Diagnostic) :=
  ledger.entries.lookup uri

def isTracked (ledger : Ledger) (uri : Uri) : Bool :=
  (ledger.get? uri).isSome

def size (ledger : Ledger) : Nat :=
  ledger.entries.length

def without (ledger : Ledger) (uri : Uri) : List (Uri × List Diagnostic) :=
  ledger.entries.filter fun entry => entry.1 != uri

/-- Record what a document shows from now on.  Taking diagnostics from a
document that shows none sends nothing. -/
def publish (ledger : Ledger) (uri : Uri) (diagnostics : List Diagnostic) :
    Ledger × Option Publication :=
  if diagnostics.isEmpty then
    if ledger.isTracked uri then (⟨ledger.without uri⟩, some ⟨uri, []⟩) else (ledger, none)
  else (⟨(uri, diagnostics) :: ledger.without uri⟩, some ⟨uri, diagnostics⟩)

/-- Record several documents one after the other. -/
def publishAll (ledger : Ledger) :
    List (Uri × List Diagnostic) → Ledger × List Publication
  | [] => (ledger, [])
  | (uri, diagnostics) :: rest =>
    let first := ledger.publish uri diagnostics
    let others := first.1.publishAll rest
    (others.1, first.2.toList ++ others.2)

/-- Withdraw everything, in the order of the documents' texts. -/
def clear (ledger : Ledger) : Ledger × List Publication :=
  let uris := (ledger.entries.map Prod.fst).mergeSort fun a b => a.text ≤ b.text
  (empty, uris.map fun uri => ⟨uri, []⟩)

end Ledger
end CompilerRelay
