import SentinelRounds.Depot.Memory
import SentinelRounds.Net.Server

/-! A server that answers every round with the items it received. -/

namespace SentinelRounds

/-- Hooks that echo: a request with items is waited for, because the response needs its body. -/
def Hooks.echo : Hooks Parcel where
  actions
    -- A denied peer reads why it was denied, so nothing is added to that.
    | .completed .receive .header, round =>
      if 0 < round.requestHeader.itemsCount then [.synchronic true]
      else if round.context.denied then []
      else [.notice "No items to echo"]
    | .completed .receive .message, round =>
      [.notice s!"Echoed {round.request.items.length} items", .echo]
    | _, _ => []
  journaled := false

/-- An echo server with an empty depot in which every peer may register. -/
def Server.echoing (net : NetSettings) : Server MemoryDepot Parcel :=
  { net, hooks := .echo, site := { depot := .unrestricted } }

end SentinelRounds
