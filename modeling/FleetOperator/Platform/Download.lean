import FleetOperator.Platform.Request
import FleetOperator.Text.Utf8

/-!
# Downloads

A download is collected into one text. The first failure that arrives wins over everything received;
the text is there once both channels have ended, or once nothing more arrives.
-/

namespace FleetOperator.Platform

/-- A download as far as it has arrived. -/
structure Collector where
  received : List UInt8 := []
  octetsOpen : Bool := true
  failuresOpen : Bool := true
deriving Repr

namespace Collector

/-- The text of what has arrived. -/
def finish (c : Collector) : Except RemoteError String :=
  match Utf8.decode c.received with
  | .ok text => .ok (String.ofList text)
  | .error fault => .error (.transport ("cluster manifests are not UTF-8: " ++ fault.message))

/-- The text of a download whose further pieces arrive in an order. -/
def collect : Collector → List Delivery → Except RemoteError String
  | c, [] => c.finish
  | c, .octets chunk :: rest =>
    if c.octetsOpen then { c with received := c.received ++ chunk }.collect rest
    else c.collect rest
  | c, .failure error :: rest => if c.failuresOpen then .error error else c.collect rest
  | c, .octetsEnd :: rest =>
    let ended := { c with octetsOpen := false }
    if c.failuresOpen then ended.collect rest else ended.finish
  | c, .failuresEnd :: rest =>
    let ended := { c with failuresOpen := false }
    if c.octetsOpen then ended.collect rest else ended.finish

end Collector

/-- The text of a download. -/
def collect (deliveries : List Delivery) : Except RemoteError String :=
  Collector.collect {} deliveries

end FleetOperator.Platform
