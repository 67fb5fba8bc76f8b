import BroadcastQuery.Proofs.Channels

/-!
Further names of channels have no order of their own, but of those with one lower case the last
hides the others. So the order shows where such names stand for different channels, and nowhere
else.
-/
namespace BroadcastQuery

namespace Vocabulary

/-- A further name and its channel, as they are looked up. -/
def furtherName (entry : Text × Text) : Text × Text := (lookupKey entry.1, lookupKey entry.2)

def channel? (vocabulary : Vocabulary) (name : Text) : Option Text :=
  vocabulary.channels.find? (lookupKey name)

variable {config : Config} {order : Table Text} {name : Text} {entry : Text × Text}

theorem canonical_of_find?_some
    (found : Table.find? (order.map furtherName) (lookupKey name) = some (lookupKey entry.2)) :
    (ofConfig { config with channelAliases := order }).canonical .channel name =
      (ofConfig config).channel? entry.2 := by
  have further : (ofConfig { config with channelAliases := order }).channelAliases.find?
      (lookupKey name) = some (lookupKey entry.2) := found
  rw [canonical_channel_eq, further]
  rfl

theorem canonical_of_find?_none
    (absent : Table.find? (order.map furtherName) (lookupKey name) = none) :
    (ofConfig { config with channelAliases := order }).canonical .channel name =
      (ofConfig config).channel? name := by
  have further : (ofConfig { config with channelAliases := order }).channelAliases.find?
      (lookupKey name) = none := absent
  rw [canonical_channel_eq, further]
  rfl

/-- Every order of the further names gives a name the same spelling, unless it is a channel's and
further names with its lower case stand for different channels. -/
theorem canonical_any_order_iff (config : Config) (category : Category) (name : Text) :
    (∀ order order' : Table Text,
      order.Perm config.channelAliases → order'.Perm config.channelAliases →
        (ofConfig { config with channelAliases := order }).canonical category name =
          (ofConfig { config with channelAliases := order' }).canonical category name) ↔
    (category = .channel →
      ∀ entry ∈ config.channelAliases, ∀ entry' ∈ config.channelAliases,
        lookupKey entry.1 = lookupKey name → lookupKey entry'.1 = lookupKey name →
          (ofConfig config).channel? entry.2 = (ofConfig config).channel? entry'.2) := by
  constructor
  · rintro alike rfl entry member entry' member' key key'
    obtain ⟨order, perm, found⟩ := Table.exists_order furtherName member
    obtain ⟨order', perm', found'⟩ := Table.exists_order furtherName member'
    rw [furtherName, key] at found
    rw [furtherName, key'] at found'
    rw [← canonical_of_find?_some found, ← canonical_of_find?_some found']
    exact alike order order' perm perm'
  · intro agree order order' perm perm'
    by_cases channel : category = .channel
    · subst channel
      rcases Table.find?_perm_cases furtherName perm perm' (lookupKey name) with
        ⟨absent, absent'⟩ | ⟨entry, member, entry', member', key, key', found, found'⟩
      · rw [canonical_of_find?_none absent, canonical_of_find?_none absent']
      · rw [canonical_of_find?_some found, canonical_of_find?_some found']
        exact agree rfl entry member entry' member' key key'
    · rw [canonical_of_ne_channel channel, canonical_of_ne_channel channel]
      cases category <;> rfl

/-- Spellings of one further name that lead to one channel, which is spelled in two ways. -/
theorem canonical_any_order_iff_cased :
    let config := { Config.standard with
      channelAliases := [("Fox".toList, "FoxNews".toList), (" FOX".toList, "foxnews ".toList)] }
    ∀ order order' : Table Text,
      order.Perm config.channelAliases → order'.Perm config.channelAliases →
        (ofConfig { config with channelAliases := order }).canonical .channel "fox".toList =
          (ofConfig { config with channelAliases := order' }).canonical .channel "fox".toList := by
  intro config
  refine (canonical_any_order_iff config .channel "fox".toList).mpr ?_
  rintro - entry member entry' member' - -
  have spelled : ∀ entry ∈ config.channelAliases,
      (ofConfig config).channel? entry.2 = some "FOXNEWS".toList := by
    decide +kernel
  rw [spelled entry member, spelled entry' member']

/-- Two spellings of one further name that stand for two channels: the later one decides. -/
theorem canonical_order_matters :
    let order := [("news".toList, "CNN".toList), ("NEWS".toList, "MSNBC".toList)]
    let order' := [("NEWS".toList, "MSNBC".toList), ("news".toList, "CNN".toList)]
    (order.map Prod.fst).Nodup ∧ order.Perm order' ∧
    (ofConfig { Config.standard with channelAliases := order }).canonical .channel "news".toList =
      some "MSNBC".toList ∧
    (ofConfig { Config.standard with channelAliases := order' }).canonical .channel "news".toList =
      some "CNN".toList ∧
    "CNN".toList ≠ "MSNBC".toList := by
  exact ⟨by decide, .swap _ _ _, rfl, rfl, by decide⟩

end Vocabulary
end BroadcastQuery
