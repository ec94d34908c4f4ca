/-! What a request can fail with: the exceptions the services throw, and the statements the
database refuses. -/

namespace ShuleHub

inductive Exception where
  | badRequest (message : String)
  | unauthorized (message : String)
  | paymentRequired (message : String)
  | forbidden (message : String)
  | notFound (message : String)
  | conflict (message : String)
  | internal (message : String)
  | badGateway (message : String)
  | serviceUnavailable (message : String)
  | database (constraint : String)
deriving DecidableEq

def Exception.message : Exception → String
  | .badRequest message => message
  | .unauthorized message => message
  | .paymentRequired message => message
  | .forbidden message => message
  | .notFound message => message
  | .conflict message => message
  | .internal message => message
  | .badGateway message => message
  | .serviceUnavailable message => message
  | .database constraint => constraint

def Exception.statusCode : Exception → Nat
  | .badRequest _ => 400
  | .unauthorized _ => 401
  | .paymentRequired _ => 402
  | .forbidden _ => 403
  | .notFound _ => 404
  | .conflict _ => 409
  | .internal _ => 500
  | .badGateway _ => 502
  | .serviceUnavailable _ => 503
  | .database _ => 500

end ShuleHub
