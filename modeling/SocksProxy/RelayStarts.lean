import SocksProxy.DrainedStreams

namespace SocksProxy.RelayStarts

open TransitionSystems RelaySession RelayLedgers TcpServer ServerFrames ServerInvariants SessionStreams
open GatewaySteps GatewayStreams DrainedStreams
open RecordedBytes (outgoing_close)

structure Silent (h : Streams) (c : Connection) : Prop where
  job : c.job ≠ .reading
  idle : ∀ d, (c.relay.peer d).read = .idle
  outgoing : ∀ d, (c.relay.peer d).outgoing = h.greeting d

def Unstarted (h : Streams) (c : Connection) : Prop := h.relaying = false → Silent h c

theorem Silent.opened {h : Streams} {c : Connection} {j : Job} {accepted : Bool} (hc : Silent h c) (d : Side)
    (hj : j ≠ .reading) (socks returned : Option Int64) : Silent h ⟨{ c.relay.opened d with socks := socks }, j, accepted, returned⟩ where
  job := hj
  idle e := by
    have hidle := hc.idle e
    cases d <;> cases e <;> exact hidle
  outgoing e := by
    have hout := hc.outgoing e
    cases d <;> cases e <;> exact hout

end SocksProxy.RelayStarts
