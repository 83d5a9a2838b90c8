import RouteLease.Wire.Attr

/-!
# The bodies of traffic-control messages

Queueing disciplines, classes, filters and chains (types 36 to 46 and 100 to 102) share a
twenty-octet header (family, index, handle, parent, info) and attributes (`TCA_*`); the kind
attribute names the discipline or filter, and the options that follow it are read by that kind.
Actions (types 48 to 50) have a four-octet header and attributes (`TCA_ROOT_*`), whose table nests
one list per action; an action must name its kind exactly once.
-/

namespace RouteLease.Wire

open Layout

/-- The kinds whose options are a list of attributes. -/
def listedOptionKinds : List String := ["u32", "matchall", "fq_codel"]

/-- The layout of each traffic-control attribute (`TCA_*`), under the kind named so far. -/
def tcItem (kind : String) : Nat → Layout
  | 1 => named "invalid TCA_KIND" .text
  | 2 =>
    if listedOptionKinds.contains kind then named ("invalid TCA_OPTIONS for " ++ kind) (framed none)
    else .raw
  | 3 => named "invalid TCA_STATS" (.block "TcStatsBuffer" 40)
  | 7 => framed (some "invalid TCA_STATS2")
  | 11 => named "failed to parse TCA_CHAIN" (.number 4)
  | 12 => named "failed to parse TCA_HW_OFFLOAD" (.number 1)
  | 13 => named "failed to parse TCA_INGRESS_BLOCK" (.number 4)
  | 14 => named "failed to parse TCA_EGRESS_BLOCK" (.number 4)
  | 16 => named "failed to parse TCA_EXT_WARN_MSG" .text
  | _ => .raw

/-- Checks traffic-control attributes in order; a kind attribute sets the kind for those after
it. -/
def checkTcAttrs : List Attr → String → Except DecodeError Unit
  | [], _ => .ok ()
  | a :: rest, kind => do
    (tcItem kind a.kind).check a.payload
    let kind := if a.kind = 1 then (readText a.payload).toOption.getD kind else kind
    checkTcAttrs rest kind

/-- Reads the body of a queueing-discipline, class, filter or chain message. -/
def checkTc (p : List UInt8) : Except DecodeError Unit :=
  let ctx := "invalid tc message"
  if p.length < 20 then .error (.context ctx (.header "TcMessageBuffer" 20 p.length))
  else
    let (as, err) := splitAttrs (p.drop 20)
    let wrap (e : DecodeError) := DecodeError.context ctx (.context "failed to parse tc message NLAs" e)
    match checkTcAttrs as "", err with
    | .error e, _ => .error (wrap e)
    | .ok (), some e => .error (wrap e)
    | .ok (), none => .ok ()

/-- The layout of each attribute of one action (`TCA_ACT_*`) once its kind is known. -/
def actionItem : Nat → Layout
  | 2 => framed (some "invalid TCA_ACT_OPTIONS")
  | 3 => named "failed to parse TCA_ACT_INDEX" (.number 4)
  | 4 => framed (some "invalid TCA_ACT_STATS")
  | 10 => named "failed to parse TCA_ACT_IN_HW_COUNT" (.number 4)
  | _ => .raw

/-- Reads one action: its kind attributes are read first, together with the framing; exactly one
kind must be given; then the other attributes are read in order. -/
def checkAction (p : List UInt8) : Except DecodeError Unit := do
  let (as, err) := splitAttrs p
  let kinds := as.filter fun a => a.kind = 1
  kinds.forM fun a => (named "failed to parse TCA_ACT_KIND" .text).check a.payload
  if let some e := err then throw (.context "failed to parse action nla" e)
  if kinds.isEmpty then throw (.other "Missing TCA_ACT_KIND")
  if kinds.length > 1 then throw (.other "Duplicate TCA_ACT_KIND")
  as.forM fun a => (actionItem a.kind).check a.payload

/-- The layout of each attribute of an action message (`TCA_ROOT_*`). -/
def actionRootItem : Nat → Layout
  | 1 => .attrs none fun _ => .custom checkAction
  | 2 => .exact 8 fun _ => .other "invalid length"
  | 3 => named "Invalid TCA_ROOT_COUNT" (.number 4)
  | 4 => named "Invalid TCA_ROOT_TIME_DELTA" (.number 4)
  | 5 => named "Invalid TCA_ROOT_EXT_WARN_MSG" .text
  | _ => .raw

/-- Reads the body of an action message. -/
def checkTcAction (p : List UInt8) : Except DecodeError Unit :=
  checkBody "invalid tc action message" "TcActionMessageBuffer" 4 none actionRootItem p

end RouteLease.Wire
