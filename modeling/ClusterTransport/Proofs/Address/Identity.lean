import ClusterTransport.Proofs.Channel.Target

/-!
# Addresses tell endpoints apart

Two addresses are written alike only if they are the same. The last colon of a written address ends
its host, whatever the host is, and a host in brackets is none that is written without them.
-/

namespace ClusterTransport

namespace Address

variable {a b : Address}

/-- The host of an address as it stands in front of the port. -/
def writtenHost (host : List Char) : List Char :=
  if ':' ∈ host then '[' :: (host ++ [']']) else host

private theorem toList_render_eq_append (a : Address) :
    a.render.toList = writtenHost a.host.toList ++ ':' :: portText a.port := by
  rw [toList_render, writtenHost]
  split
  · simp
  · rfl

private theorem brackets_ne {host other : List Char} (hhost : ':' ∈ host) (hother : ':' ∉ other) :
    '[' :: (host ++ [']']) ≠ other := by
  rintro rfl
  exact hother (List.mem_cons_of_mem _ (List.mem_append_left _ hhost))

private theorem writtenHost_inj {host other : List Char} :
    writtenHost host = writtenHost other ↔ host = other := by
  refine ⟨fun h => ?_, fun h => by rw [h]⟩
  unfold writtenHost at h
  by_cases hhost : ':' ∈ host
  · by_cases hother : ':' ∈ other
    · rw [if_pos hhost, if_pos hother] at h
      exact (List.append_left_inj _).mp (List.cons.inj h).2
    · rw [if_pos hhost, if_neg hother] at h
      exact absurd h (brackets_ne hhost hother)
  · by_cases hother : ':' ∈ other
    · rw [if_neg hhost, if_pos hother] at h
      exact absurd h.symm (brackets_ne hother hhost)
    · rwa [if_neg hhost, if_neg hother] at h

private theorem portText_inj {p q : UInt16} : portText p = portText q ↔ p = q := by
  refine ⟨fun h => ?_, fun h => by rw [h]⟩
  have hvalue : Nat.ofDigitChars 10 (portText p) 0 = Nat.ofDigitChars 10 (portText q) 0 := by
    rw [h]
  rw [portText, portText, Nat.ofDigitChars_ten_toDigits, Nat.ofDigitChars_ten_toDigits] at hvalue
  exact UInt16.toNat_inj.mp hvalue

private theorem splitFirst_reverse_append (s : List Char) (port : UInt16) :
    splitFirst ':' (s ++ ':' :: portText port).reverse =
      some ((portText port).reverse, s.reverse) := by
  have hcolon : ':' ∉ (portText port).reverse := by
    rw [List.mem_reverse]
    exact colon_not_mem_of_isPort (isPort_portText port)
  have hreverse : (s ++ ':' :: portText port).reverse =
      (portText port).reverse ++ ':' :: s.reverse := by simp
  rw [hreverse]
  exact splitFirst_append hcolon

private theorem append_portText_inj {s t : List Char} {p q : UInt16} :
    s ++ ':' :: portText p = t ++ ':' :: portText q ↔ s = t ∧ p = q := by
  constructor
  · intro h
    have hsplit : some ((portText p).reverse, s.reverse) =
        some ((portText q).reverse, t.reverse) := by
      rw [← splitFirst_reverse_append, ← splitFirst_reverse_append, h]
    obtain ⟨hport, hhost⟩ := Prod.mk.inj (Option.some.inj hsplit)
    exact ⟨List.reverse_inj.mp hhost, portText_inj.mp (List.reverse_inj.mp hport)⟩
  · rintro ⟨rfl, rfl⟩
    rfl

private theorem render_inj : a.render = b.render ↔ a = b := by
  rw [← String.toList_inj, toList_render_eq_append, toList_render_eq_append, append_portText_inj,
    writtenHost_inj, String.toList_inj]
  cases a
  cases b
  simp

end Address

namespace ChannelFactory

private theorem uri_inj (f : ChannelFactory) (a b : Endpoint) :
    f.uri a = f.uri b ↔ a.address = b.address := by
  rw [uri, uri, String.append_right_inj]

end ChannelFactory

namespace Endpoint

/-- Two endpoints have one address, and one URI for their channels, if and only if they are the
same, whatever their hosts are. -/
theorem address_eq_iff_same (a b : Endpoint) :
    (a.address = b.address ↔ a.same b = true) ∧
      ∀ f : ChannelFactory, f.uri a = f.uri b ↔ a.same b = true := by
  have haddress : a.address = b.address ↔ a.same b = true := by
    rw [same_iff]
    exact Address.render_inj
  exact ⟨haddress, fun f => (f.uri_inj a b).trans haddress⟩

end Endpoint

end ClusterTransport
