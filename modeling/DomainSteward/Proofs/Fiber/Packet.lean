import DomainSteward.Fiber.Packet

/-! Packets read as what is under each name. -/
namespace DomainSteward.Packets

variable {p : Packet} {key other : String} {value : PacketValue}

theorem value_put (p : Packet) (key other : String) (value : PacketValue) :
    (p.put key value).value? other = if other = key then some value else p.value? other :=
  NameMap.get?_insert p.values key other value

theorem value_remove (p : Packet) (key other : String) :
    (p.remove key).value? other = if other = key then none else p.value? other :=
  NameMap.get?_erase p.values key other

theorem value_put_same : (p.put key value).value? key = some value := by
  rw [value_put, if_pos rfl]

theorem value_put_other (different : other ≠ key) :
    (p.put key value).value? other = p.value? other := by
  rw [value_put, if_neg different]

theorem value_remove_same : (p.remove key).value? key = none := by
  rw [value_remove, if_pos rfl]

theorem value_remove_other (different : other ≠ key) :
    (p.remove key).value? other = p.value? other := by
  rw [value_remove, if_neg different]

@[simp] theorem presence_put : (p.put key value).presence = p.presence := rfl

@[simp] theorem presence_remove : (p.remove key).presence = p.presence := rfl

@[simp] theorem budget_put : (p.put key value).budget = p.budget := rfl

@[simp] theorem budget_remove : (p.remove key).budget = p.budget := rfl

@[simp] theorem tokens_put : (p.put key value).tokens = p.tokens := rfl

@[simp] theorem tokens_remove : (p.remove key).tokens = p.tokens := rfl

end DomainSteward.Packets
