import Nomenclator.Text.Basic

/-!
# Transport faults

What can go wrong while a request travels. A connect timeout is both a timeout and a connection
fault; where it matters, the timeout comes first.
-/

namespace Nomenclator

inductive TransportKind where
  | timeout
  | connectTimeout
  | readTimeout
  | connection
  | tls
  | proxy
  /-- Any other fault, under the name that the transport gives it. -/
  | other (name : Text)
deriving DecidableEq, Repr

namespace TransportKind

def isTimeout : TransportKind → Bool
  | timeout | connectTimeout | readTimeout => true
  | _ => false

def isConnection : TransportKind → Bool
  | connectTimeout | connection | tls | proxy => true
  | _ => false

end TransportKind

structure TransportFault where
  kind : TransportKind
  message : Text
deriving DecidableEq, Repr

end Nomenclator
