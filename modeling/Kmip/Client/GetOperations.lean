import Kmip.Client.KeyFormats

/-!
# `KmipClient`: Get and Get Attributes

`opGetKey`, `opGetSecret` and `opGetAttributes` make up to three attempts: with selectors, with the selectors as
attribute names, as KMIP 1.x has them, and without selectors. The last attempt of `op_get_key` and `op_get_secret` is
written out in the source; it is the first one with other selectors.
-/

namespace Kmip.Client

/-! ## Attempts -/

def shouldRetryGetAttributesWithLegacyV2Encoding (e : KmipException) : Bool :=
  e.code = kmipReasonInvalidMessage ∨ e.code = kmipReasonInvalidField ∨ e.code = kmipReasonFeatureNotSupported

/-- What the handlers look at. A loop that does not end is not caught. -/
def shouldRetry : Abort → Bool
  | .thrown e => shouldRetryGetAttributesWithLegacyV2Encoding e
  | .diverged => false

/-- The selectors of an attempt, and whether they are sent as attribute names. -/
structure Attempt where
  selectors : List Bytes
  legacyAttributeNamesForV2 : Bool
deriving DecidableEq

/-- The attempts in their order. -/
def attempts (names : List Bytes) : List Attempt := [⟨names, false⟩, ⟨names, true⟩, ⟨[], true⟩]

def defaultGetKeyAttrs (allAttributes : Bool) : List Bytes :=
  if allAttributes then []
  else [kmipAttrNameState, kmipAttrNameName, kmipAttrNameOperationPolicyName, kmipAttrNameCryptoAlg,
    kmipAttrNameCryptoLen, kmipAttrNameCryptoUsageMask]

def defaultGetSecretAttrs (allAttributes : Bool) : List Bytes :=
  if allAttributes then [] else [kmipAttrNameState, kmipAttrNameName, kmipAttrNameOperationPolicyName]

namespace KmipClient

variable (c : KmipClient)

/-- The `try` blocks of the operations. -/
def withRetries {α : Type} (execute : Attempt → Session α) (names : List Bytes) : Session α :=
  tryCatch (execute ⟨names, false⟩) fun firstError =>
    if !c.version.isAtLeast 2 0 || !shouldRetry firstError then throw firstError
    else tryCatch (execute ⟨names, true⟩) fun secondError =>
      if names.isEmpty || !shouldRetry secondError then throw secondError else execute ⟨[], true⟩

/-! ## The key of an object -/

def missingState : Abort := .message "Required attribute 'State' missing from server response"

/-- The Get response and the attributes, with the State. -/
def readKeyResponse (getItemId attributesItemId : UInt32) (rf : ResponseParser) :
    Except Abort (GetResponseBatchItem × Attributes) := do
  let (getResponse, rf) ← rf.getResponseByBatchItemId GetResponseBatchItem.fromBatchItem getItemId
  let (attrsResponse, _) ← rf.getResponseByBatchItemId GetAttributesResponseBatchItem.fromBatchItem attributesItemId
  let serverAttrs ← AttributesParser.parse c.dateToString attrsResponse.attributes
  if !serverAttrs.hasAttribute kmipAttrNameState then .error missingState else .ok (getResponse, serverAttrs)

def getKeyAttempt (id : Bytes) (attempt : Attempt) : Session Key := do
  let request ← Session.of c.makeRequestMessage
  let (getItemId, request) := request.addBatchItem (GetRequest id none)
  let (attributesItemId, request) := request.addBatchItem (GetAttributesRequest id attempt.selectors
    request.header.protocolVersion attempt.legacyAttributeNamesForV2)
  let rf ← c.send request
  let (getResponse, serverAttrs) ← Session.of (c.readKeyResponse getItemId attributesItemId rf)
  let key ← c.keyFromGetResponse id getResponse
  pure { key with attributes := key.attributes.merge serverAttrs }

def opGetKey (id : Bytes) (allAttributes : Bool) : Session Key :=
  c.withRetries (c.getKeyAttempt id) (defaultGetKeyAttrs allAttributes)

/-! ## A secret -/

/-- All attributes, or State and Name only. -/
def secretWithAttributes (allAttributes : Bool) (secret : Secret) (serverAttrs : Attributes) : Except Abort Secret :=
  if allAttributes then .ok { secret with attributes := secret.attributes.merge serverAttrs }
  else if !serverAttrs.hasAttribute kmipAttrNameState then .error missingState
  else
    let attributes := secret.attributes.setState serverAttrs.objectState
    let attributes :=
      if serverAttrs.hasAttribute kmipAttrNameName then
        attributes.setString kmipAttrNameName (serverAttrs.get kmipAttrNameName)
      else attributes
    .ok { secret with attributes := attributes }

def readSecretResponse (allAttributes : Bool) (getItemId attributesItemId : UInt32) (rf : ResponseParser) :
    Except Abort Secret := do
  let (getResponse, rf) ← rf.getResponseByBatchItemId GetResponseBatchItem.fromBatchItem getItemId
  let secret ← KeyParser.parseGetSecretResponse getResponse
  let (attrsResponse, _) ← rf.getResponseByBatchItemId GetAttributesResponseBatchItem.fromBatchItem attributesItemId
  let serverAttrs ← AttributesParser.parse c.dateToString attrsResponse.attributes
  secretWithAttributes allAttributes secret serverAttrs

def getSecretAttempt (id : Bytes) (allAttributes : Bool) (attempt : Attempt) : Session Secret := do
  let request ← Session.of c.makeRequestMessage
  let (getItemId, request) := request.addBatchItem (GetRequest id none)
  let (attributesItemId, request) := request.addBatchItem (GetAttributesRequest id attempt.selectors
    request.header.protocolVersion attempt.legacyAttributeNamesForV2)
  let rf ← c.send request
  Session.of (c.readSecretResponse allAttributes getItemId attributesItemId rf)

def opGetSecret (id : Bytes) (allAttributes : Bool) : Session Secret :=
  c.withRetries (c.getSecretAttempt id allAttributes) (defaultGetSecretAttrs allAttributes)

/-! ## Attributes -/

def readAttributesResponse (batchItemId : UInt32) (rf : ResponseParser) : Except Abort Attributes := do
  let (response, _) ← rf.getResponseByBatchItemId GetAttributesResponseBatchItem.fromBatchItem batchItemId
  AttributesParser.parse c.dateToString response.attributes

def getAttributesAttempt (id : Bytes) (attempt : Attempt) : Session Attributes := do
  let request ← Session.of c.makeRequestMessage
  let (batchItemId, request) := request.addBatchItem (GetAttributesRequest id attempt.selectors
    request.header.protocolVersion attempt.legacyAttributeNamesForV2)
  let rf ← c.send request
  Session.of (c.readAttributesResponse batchItemId rf)

def opGetAttributes (id : Bytes) (attrNames : List Bytes) : Session Attributes :=
  c.withRetries (c.getAttributesAttempt id) attrNames

end KmipClient

end Kmip.Client
