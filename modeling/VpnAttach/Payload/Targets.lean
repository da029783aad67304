import VpnAttach.Policy

/-!
# Route targets as the agent gets them

The route targets of several VPNs are put together per kind of VPN: the import
list of a kind has, for every VPN of that kind in order, its route targets and
then its import targets, and the export list likewise.  Nothing is left out or
reordered, since the agent depends on the exact lists.
-/

namespace VpnAttach

/-- The targets that routes are imported from and exported to. -/
structure TargetLists where
  imports : List String := []
  exports : List String := []
  deriving DecidableEq

namespace TargetLists

/-- Whether there is no target at all. -/
def isEmpty (lists : TargetLists) : Bool :=
  lists.imports.isEmpty && lists.exports.isEmpty

/-- The lists of two groups, one after the other. -/
def append (x y : TargetLists) : TargetLists :=
  ⟨x.imports ++ y.imports, x.exports ++ y.exports⟩

instance : Append TargetLists := ⟨append⟩

/-- The lists of one VPN. -/
def ofVpn (vpn : Vpn) : TargetLists where
  imports := (vpn.routeTargets ++ vpn.importTargets).map (·.text)
  exports := (vpn.routeTargets ++ vpn.exportTargets).map (·.text)

end TargetLists

/-- Target lists under the wire keys of VPN kinds, sorted by key. -/
abbrev TargetMap := List (String × TargetLists)

namespace TargetMap

/-- Adds the lists of a VPN to those of its kind. -/
def gather (lists : VpnKind → Option TargetLists) (vpn : Vpn) :
    VpnKind → Option TargetLists :=
  fun kind =>
    if kind = vpn.kind then
      some ((lists kind).getD {} ++ TargetLists.ofVpn vpn)
    else lists kind

/-- The lists of every kind that occurs. -/
def byKind (vpns : List Vpn) : VpnKind → Option TargetLists :=
  vpns.foldl gather fun _ => none

/-- The lists of the VPNs whose kind is emitted. -/
def project (emitted : List VpnKind) (vpns : List Vpn) : TargetMap :=
  VpnKind.all.filterMap fun kind =>
    if kind ∈ emitted then (byKind vpns kind).map (kind.wireKey, ·) else none

/-- The map without kinds that have no target. -/
def dropEmpty (targets : TargetMap) : TargetMap :=
  targets.filter fun entry => !entry.2.isEmpty

/-- The import lists of all kinds, one after the other. -/
def allImports (targets : TargetMap) : List String :=
  targets.flatMap (·.2.imports)

/-- The export lists of all kinds, one after the other. -/
def allExports (targets : TargetMap) : List String :=
  targets.flatMap (·.2.exports)

end TargetMap
end VpnAttach
