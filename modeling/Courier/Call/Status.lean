/-!
# Codes of the service

The service says in the body of a reply what became of a request, by a code of its own.
-/

namespace Courier.ServiceCode

/-- The request was carried out. -/
def success : Int := 0

/-- A request with the same identifier had been received before. -/
def duplicate : Int := 409

/-- What the request was about was lost. -/
def lost : Int := 410

/-- The client shall slow down. -/
def tooMany : Int := 429

/-- Whether a request was carried out. -/
def isSuccess (code : Int) : Bool := code == success || code == 200

/-- Whether an upload was delivered; a duplicate was delivered before. -/
def isUploadSuccess (code : Int) : Bool := code == success || code == duplicate

/-- Whether the server has too much to do. -/
def isOverload (code : Int) : Bool := code == tooMany

/-- Whether what the request was about was lost. -/
def isLoss (code : Int) : Bool := code == lost

end Courier.ServiceCode
