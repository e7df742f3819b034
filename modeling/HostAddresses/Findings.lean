import HostAddresses.IPv6.Scope
import HostAddresses.Traced

/-!
# Summarizing an interface

The records of an interface are taken in one after the other. Of each family the last record counts,
so `Findings` holds one address and one netmask for IPv4 and for IPv6 and one hardware address, and
every record overwrites what its family had. A netmask that is missing is the empty text.

At the end the length of the prefix is added to an address that has a netmask. Only then is the
netmask read, so one that is overwritten may be anything.
-/

namespace HostAddresses

/-- What the records of an interface have shown so far. -/
structure Findings where
  ipv4 : String
  mask4 : String
  ipv6 : String
  mask6 : String
  mac : String
deriving DecidableEq

namespace Findings

/-- Before the first record. -/
def empty : Findings := ⟨"", "", "", "", ""⟩

/-- Takes in a record. -/
def note (found : Findings) (r : Record) : Findings :=
  match r.family with
  | .inet => { found with ipv4 := r.address, mask4 := r.netmask.getD "" }
  | .inet6 => { found with ipv6 := IPv6.withoutScope r.address, mask6 := r.netmask.getD "" }
  | .link => { found with mac := r.address }
  | .other _ => found

/-- What a list of records shows. -/
def ofRecords (records : List Record) : Findings := records.foldl note empty

/-- An address with the length of its prefix, if it has a netmask. -/
def withPrefixLength (prefixLength : String → Except Netmask.Error Nat) (address mask : String) :
    Except Netmask.Error String :=
  if address = "" ∨ mask = "" then .ok address
  else do
    let length ← prefixLength mask
    return s!"{address}/{length}"

end Findings

namespace Interface

/-- The summary of an interface, or its first netmask that is none: that for IPv4 is read first. -/
def summary (i : Interface) : Except ReportFailure Summary := do
  let found := Findings.ofRecords i.records
  let ipv4 ← (Findings.withPrefixLength Netmask.prefixLength4 found.ipv4 found.mask4).mapError
    (.badNetmask i.name .inet found.mask4)
  let ipv6 ← (Findings.withPrefixLength Netmask.prefixLengthOfAddress6 found.ipv6 found.mask6).mapError
    (.badNetmask i.name .inet6 found.mask6)
  return ⟨i.name, ipv4, ipv6, found.mac⟩

/-- The events of taking in a record. -/
def recordEvents (name : String) (r : Record) : List Event :=
  .record name r :: match r.family with
    | .other number => [.ignored name (.other number)]
    | .inet | .inet6 | .link => []

/-- Summarizes an interface, and logs its records and the summary. -/
def tracedSummary (i : Interface) : Traced Summary := do
  .emitAll (i.records.flatMap (recordEvents i.name))
  let s ← .ofExcept i.summary
  .emit (.summarized s)
  return s

end Interface

end HostAddresses
