import PpvpnCore.Translate.Tun

/-!
# The translation

`translate`: a validated profile and the device's inputs to the configuration
and the tag maps that lead back to the profile.
-/

namespace PpvpnCore

/-- The configuration and how its tags map back to the profile. -/
structure Translation where
  json : Config
  tags : Tags
  /-- How often the fallback groups test their members, in seconds. -/
  checkInterval : Nat
  deriving DecidableEq

/-- `direct` gets its own resolver where it has one. -/
def withResolver (resolver : Option DomainResolver) (out : Outbound) : Outbound :=
  match resolver, out with
  | some resolver, .direct tag _ => .direct tag (some resolver)
  | _, out => out

/-- The rule sets with a copy that DNS rules may name. -/
def mirroredRuleSets (files : BTreeMap String RuleSetFile) : List String :=
  (files.toList.filter (·.2.mirrorDns)).map fun (id, _) => ruleSetTag id

def Builder.addTunRules [Crates] (b : Builder) (profile : Profile) (o : Options) : Builder :=
  match o.tun with
  | some tun => (b.tunRules profile tun).labelRules "tun"
  | none => b

def Builder.addLocalProxy (b : Builder) (profile : Profile) (o : Options) :
    Except Error Builder :=
  match o.localProxy with
  | some proxy =>
    (b.localProxy profile proxy o.localProxyLeftOut).map (·.labelRules "local-proxy")
  | none => .ok b

def Builder.addSystemProxy (b : Builder) (o : Options) : Builder :=
  match o.systemProxyPort with
  | some port =>
    { b with inbounds := b.inbounds ++ [.mixed systemProxyInboundTag loopback port []] }
  | none => b

def Builder.addTunInbound (b : Builder) (profile : Profile) (o : Options) : Builder :=
  match o.tun with
  | some tun => (b.tunInbound profile tun).labelRules "tun"
  | none => b

/-- The listeners and the rules before the profile's own. -/
def Builder.listeners [Crates] (b : Builder) (profile : Profile) (o : Options) :
    Except Error Builder := do
  let b ← (b.addTunRules profile o).addLocalProxy profile o
  return (b.addSystemProxy o).addTunInbound profile o

/-- The builder with the nodes' outbounds behind the selector over them. -/
def Builder.outboundsOf [Crates] (profile : Profile) (o : Options) : Except Error Builder := do
  let (tags, outs) ← Builder.nodes o.pins o.healthCheck {} profile.nodes
  let selected := o.selectedNodeId.getD profile.selection.defaultNodeId
  let default ← match tags.nodeTags[selected]? with
    | some tag => .ok tag
    | none => .error (failed s!"selected node {quoted selected} does not exist")
  let members := profile.nodes.map fun n => tags.nodeTags.getD n.id ""
  return {
    tags
    outbounds := .selector selectedTag members default :: outs
    udpOff := (profile.nodes.filter fun n => !n.capabilities.udp).map fun n => nodeTag n.id }

/-- The document of a finished builder. -/
def Builder.finish (b : Builder) (o : Options) (final : Option String) (dns : Option Dns) :
    Translation :=
  let b := b.labelRules "engine"
  { json :=
      { logLevel := o.logLevel
        dns
        inbounds := b.inbounds
        outbounds := b.outbounds.map (withResolver b.directResolver)
        route :=
          { rules := b.rules
            ruleSet := b.ruleSets
            final
            autoDetectInterface := b.autoDetectInterface
            defaultDomainResolver := if o.tun.isSome then some dnsLocalTag else none } }
    tags := b.tags
    checkInterval := o.healthCheck.interval }

/-- Translates a validated profile. -/
def translate [Crates] (profile : Profile) (o : Options) : Except Error Translation := do
  let b ← Builder.outboundsOf profile o
  let b ← b.listeners profile o
  let (b, final) ← b.routing (effectiveRouting profile o.mode) o.ruleSets
  match o.tun with
  | some tun => do
    let (b, dns) ← b.tunDns tun (final = some directTag) (mirroredRuleSets o.ruleSets)
    return b.finish o final (some dns)
  | none => return b.finish o final none

end PpvpnCore
