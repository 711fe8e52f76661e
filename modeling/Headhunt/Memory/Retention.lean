import Headhunt.Lib.PyText
import Headhunt.Memory.VectorStore

/-! `MemoryRetentionService`: default expiry dates and the expiry of memories. -/
namespace Headhunt.Memory
open Headhunt.Storage Py

/-- A row of `memory_items` with the time the server gave it. -/
structure MemoryRecord extends MemoryItem where
  createdAt : Time

def MemoryRecord.withLife (row : MemoryRecord) (status : MemoryStatus) (expiresAt : Option Time) :
    MemoryRecord :=
  { row with
    status := status
    expiresAt := expiresAt }

def days (n : Int) : Time := seconds (n * 86400)

def permanentPolicyAliases : List String := ["permanent", "forever"]

/-- `str(raw_value).strip().lower()`; the text of a value that is no string is no policy. -/
def retentionPolicy (metadata : Dict) : Option String :=
  match metadata.get "retention_policy" with
  | .str value => some (lower (strip value)) |>.filter (· ≠ "")
  | _ => none

def isPermanentMemory (metadata : Dict) : Bool :=
  (retentionPolicy metadata).any (· ∈ permanentPolicyAliases)

/-- `_retention_window`; every scope of the table has one. -/
def retentionWindow (scope : MemoryScope) (policy : Option String) : Time :=
  if policy = some "30d" then days 30
  else if policy = some "90d" then days 90
  else if scope = .run then days 30
  else days 90

def defaultMemoryExpiresAt (scope : MemoryScope) (createdAt : Time) (metadata : Dict) :
    Option Time :=
  if isPermanentMemory metadata then none
  else some (createdAt + retentionWindow scope (retentionPolicy metadata))

/-- The loop body of `run` on a row it scans. -/
def retainRow (now : Time) (row : MemoryRecord) : MemoryRecord :=
  if isPermanentMemory row.metadata then row.withLife row.status none
  else
    let expiresAt := row.expiresAt.or
      (defaultMemoryExpiresAt row.scope row.createdAt row.metadata)
    row.withLife (if ∃ e ∈ expiresAt, e ≤ now then .expired else row.status) expiresAt

def retentionManaged (row : MemoryRecord) : Bool :=
  row.status = .active || row.status = .pendingReview

def runRetention (now : Time) (dryRun : Bool) (memories : List MemoryRecord) :
    List MemoryRecord :=
  if dryRun then memories
  else memories.map fun row => if retentionManaged row then retainRow now row else row

end Headhunt.Memory
