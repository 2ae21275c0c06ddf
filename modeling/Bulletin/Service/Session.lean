import Bulletin.Service.Respond
import Bulletin.Store.Memory

namespace Bulletin.Memory

/-- Answers a request; all calls of one request are made at one reading of the clock. -/
def answer (now : Timestamp) (request : Request) (m : Memory) : Response × Memory :=
  m.run now (Service.respond request)

def served (m : Memory) : List (Timestamp × Request) → Memory
  | [] => m
  | (now, request) :: requests => (m.answer now request).2.served requests

def responses (m : Memory) : List (Timestamp × Request) → List Response
  | [] => []
  | (now, request) :: requests =>
    (m.answer now request).1 :: (m.answer now request).2.responses requests

end Bulletin.Memory
