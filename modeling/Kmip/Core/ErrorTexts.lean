import Kmip.Core.Text

/-!
# Texts of codes

The texts of `kmip_category` and `operation_to_string`, from which `ResponseParser` builds the message of a failed
operation.
-/

namespace Kmip

/-- `KmipReasonInfo`. -/
structure KmipReasonInfo where
  name : String
  description : String

def lookupKmipReasonInfo (code : Int) : Option KmipReasonInfo :=
  List.lookup code
    [(0x01, ⟨"Item Not Found", "No object with the specified Unique Identifier exists."⟩),
      (0x02, ⟨"Response Too Large", "Maximum Response Size has been exceeded."⟩),
      (0x03, ⟨"Authentication Not Successful", "Authentication did not succeed."⟩),
      (0x04, ⟨"Invalid Message", "The request message was not syntactically understood by the server."⟩),
      (0x05, ⟨"Operation Not Supported",
        "The operation requested by the request message is not supported by the server."⟩),
      (0x06, ⟨"Missing Data", "The operation required additional information in the request, which was not present."⟩),
      (0x07, ⟨"Invalid Field", "The request is syntactically valid but some non-attribute data field is invalid."⟩),
      (0x08, ⟨"Feature Not Supported",
        "The operation is supported, but a specific feature requested is not supported."⟩),
      (0x09, ⟨"Operation Canceled By Requester", "The asynchronous operation was canceled before it completed."⟩),
      (0x0A, ⟨"Cryptographic Failure", "A cryptographic operation failed."⟩),
      (0x0B, ⟨"Illegal Operation", "The requested operation is not legal in the current context."⟩),
      (0x0C, ⟨"Permission Denied", "Client is not allowed to perform the specified operation."⟩),
      (0x0D, ⟨"Object Archived", "The object must be recovered from archive before this operation."⟩),
      (0x0E, ⟨"Index Out Of Bounds", "An index in the request exceeded valid bounds."⟩),
      (0x0F, ⟨"Application Namespace Not Supported", "The application namespace is not supported by the server."⟩),
      (0x10, ⟨"Key Format Type Not Supported", "The server cannot provide the object in the desired Key Format Type."⟩),
      (0x11, ⟨"Key Compression Type Not Supported",
        "The server cannot provide the object in the desired Key Compression Type."⟩),
      (0x12, ⟨"Encoding Option Error", "The requested encoding option failed."⟩),
      (0x13, ⟨"Key Value Not Present", "The key value is not present on the server."⟩),
      (0x14, ⟨"Attestation Required", "Attestation is required to complete this request."⟩),
      (0x15, ⟨"Attestation Failed", "Attestation data validation failed."⟩),
      (0x16, ⟨"Sensitive", "Sensitive keys may not be retrieved unwrapped."⟩),
      (0x17, ⟨"Not Extractable", "The object is not extractable."⟩),
      (0x18, ⟨"Object Already Exists", "An object with the requested identifier already exists."⟩),
      (0x19, ⟨"Invalid Ticket", "The ticket was invalid."⟩),
      (0x1A, ⟨"Usage Limit Exceeded", "The usage limit or request count has been exceeded."⟩),
      (0x1B, ⟨"Numeric Range", "A numeric result is too large or too small for the requested data type."⟩),
      (0x1C, ⟨"Invalid Data Type", "A data type was invalid for the requested operation."⟩),
      (0x1D, ⟨"Read Only Attribute", "Attempted to set a read-only attribute."⟩),
      (0x1E, ⟨"Multi Valued Attribute", "Attempted to set or adjust an attribute that has multiple values."⟩),
      (0x1F, ⟨"Unsupported Attribute", "Attribute is valid in the specification but unsupported by the server."⟩),
      (0x20, ⟨"Attribute Instance Not Found", "A specific attribute instance could not be found."⟩),
      (0x21, ⟨"Attribute Not Found", "A requested attribute does not exist on the object."⟩),
      (0x22, ⟨"Attribute Read Only", "Attempted to modify an attribute that is read-only."⟩),
      (0x23, ⟨"Attribute Single Valued", "Attempted to provide multiple values for a single-valued attribute."⟩),
      (0x24, ⟨"Bad Cryptographic Parameters", "Cryptographic parameters are invalid for the requested operation."⟩),
      (0x25, ⟨"Bad Password", "Provided password is invalid."⟩),
      (0x26, ⟨"Codec Error", "A codec error occurred while processing the request."⟩),
      (0x28, ⟨"Illegal Object Type", "This operation cannot be performed on the specified object type."⟩),
      (0x29, ⟨"Incompatible Cryptographic Usage Mask",
        "Cryptographic parameters or usage mask are incompatible with the operation."⟩),
      (0x2A, ⟨"Internal Server Error", "The server had an internal error and could not process the request."⟩),
      (0x2B, ⟨"Invalid Asynchronous Correlation Value",
        "No outstanding operation exists for the provided asynchronous correlation value."⟩),
      (0x2C, ⟨"Invalid Attribute", "An attribute is invalid for this object and operation."⟩),
      (0x2D, ⟨"Invalid Attribute Value", "The supplied value for an attribute is invalid."⟩),
      (0x2E, ⟨"Invalid Correlation Value", "Correlation value is invalid for this request context."⟩),
      (0x2F, ⟨"Invalid CSR", "Certificate Signing Request is invalid."⟩),
      (0x30, ⟨"Invalid Object Type", "The specified object type is invalid for the operation."⟩),
      (0x32, ⟨"Key Wrap Type Not Supported", "The key wrap type is not supported by the server."⟩),
      (0x34, ⟨"Missing Initialization Vector", "Initialization vector is required but missing."⟩),
      (0x35, ⟨"Non Unique Name Attribute", "The request violates uniqueness constraints on the Name attribute."⟩),
      (0x36, ⟨"Object Destroyed", "The object exists but has already been destroyed."⟩),
      (0x37, ⟨"Object Not Found", "A requested managed object was not found."⟩),
      (0x39, ⟨"Not Authorised", "Client is not authorised for the requested operation."⟩),
      (0x3A, ⟨"Server Limit Exceeded", "A server-side limit has been exceeded."⟩),
      (0x3B, ⟨"Unknown Enumeration", "An enumeration value is not known by the server."⟩),
      (0x3C, ⟨"Unknown Message Extension", "The server does not support the supplied message extension."⟩),
      (0x3D, ⟨"Unknown Tag", "A tag in the request is not known by the server."⟩),
      (0x3E, ⟨"Unsupported Cryptographic Parameters",
        "Cryptographic parameters are valid in spec but unsupported by server."⟩),
      (0x3F, ⟨"Unsupported Protocol Version", "The operation cannot be performed with the provided protocol version."⟩),
      (0x40, ⟨"Wrapping Object Archived", "Wrapping object is archived."⟩),
      (0x41, ⟨"Wrapping Object Destroyed", "Wrapping object exists but is destroyed."⟩),
      (0x42, ⟨"Wrapping Object Not Found", "Wrapping object does not exist."⟩),
      (0x43, ⟨"Wrong Key Lifecycle State", "Key lifecycle state is invalid for the requested operation."⟩),
      (0x44, ⟨"Protection Storage Unavailable", "Requested protection storage is unavailable."⟩),
      (0x45, ⟨"PKCS#11 Codec Error", "There is a codec error in PKCS#11 input parameters."⟩),
      (0x46, ⟨"PKCS#11 Invalid Function", "The PKCS#11 function is not in the selected interface."⟩),
      (0x47, ⟨"PKCS#11 Invalid Interface", "The PKCS#11 interface is unknown or unavailable."⟩),
      (0x48, ⟨"Private Protection Storage Unavailable", "Requested private protection storage is unavailable."⟩),
      (0x49, ⟨"Public Protection Storage Unavailable", "Requested public protection storage is unavailable."⟩),
      (0x100, ⟨"General Failure", "The request failed for a reason outside the other reason codes."⟩)]

def lookupInternalErrorName (code : Int) : Option String :=
  List.lookup code
    [(0, "OK"), (-1, "Not Implemented"), (-2, "Buffer Full"), (-3, "Attribute Unsupported"), (-4, "Tag Mismatch"),
      (-5, "Type Mismatch"), (-6, "Length Mismatch"), (-7, "Padding Mismatch"), (-8, "Boolean Mismatch"),
      (-9, "Enum Mismatch"), (-10, "Enum Unsupported"), (-11, "Invalid For Version"),
      (-12, "Memory Allocation Failed"), (-13, "I/O Failure"), (-14, "Exceeded Max Message Size"),
      (-15, "Malformed Response"), (-16, "Object Mismatch"), (-17, "Invalid Argument"), (-18, "Buffer Underfull"),
      (-19, "Invalid Encoding"), (-20, "Invalid Field"), (-21, "Invalid Length")]

def hexCode (code : Int) : String := "0x" ++ hex 0 (code % 2 ^ 32).toNat

/-- `kmip_category().message`. -/
def kmipMessageForCode (code : Int) : String :=
  match lookupKmipReasonInfo code with
  | some info => info.name ++ ": " ++ info.description
  | none =>
    match lookupInternalErrorName code with
    | some internalName => internalName
    | none =>
      if code = kmipStatusSuccess.toInt then "Success" else "Unknown KMIP error code " ++ hexCode code

def operationToString (value : Int32) : String :=
  (List.lookup value
    [(0x01, "Create"), (0x02, "Create Key Pair"), (0x03, "Register"), (0x04, "Rekey"), (0x05, "Derive Key"),
      (0x06, "Certify"), (0x07, "Recertify"), (0x08, "Locate"), (0x09, "Check"), (0x0A, "Get"),
      (0x0B, "Get Attributes"), (0x0C, "Get Attribute List"), (0x0D, "Add Attribute"), (0x0E, "Modify Attribute"),
      (0x0F, "Delete Attribute"), (0x10, "Obtain Lease"), (0x11, "Get Usage Allocation"), (0x12, "Activate"),
      (0x13, "Revoke"), (0x14, "Destroy"), (0x15, "Archive"), (0x16, "Recover"), (0x17, "Validate"), (0x18, "Query"),
      (0x19, "Cancel"), (0x1A, "Poll"), (0x1B, "Notify"), (0x1C, "Put"), (0x1D, "Rekey Key Pair"),
      (0x1E, "Discover Versions"), (0x1F, "Encrypt"), (0x20, "Decrypt"), (0x21, "Sign"), (0x22, "Signature Verify"),
      (0x23, "MAC"), (0x24, "MAC Verify"), (0x25, "RNG Retrieve"), (0x26, "RNG Seed"), (0x27, "Hash"),
      (0x28, "Create Split Key"), (0x29, "Join Split Key"), (0x2A, "Import"), (0x2B, "Export"), (0x2C, "Log"),
      (0x2D, "Login"), (0x2E, "Logout"), (0x2F, "Delegated Login"), (0x30, "Adjust Attribute"),
      (0x31, "Set Attribute"), (0x32, "Set Endpoint Role"), (0x33, "PKCS#11"), (0x34, "Interop"),
      (0x35, "Reprovision")]).getD "Unknown Operation"

def resultStatusToString (status : Int32) : String :=
  if status = kmipStatusSuccess then "Success"
  else if status = kmipStatusOperationFailed then "Operation Failed"
  else if status = kmipStatusOperationPending then "Operation Pending"
  else if status = kmipStatusOperationUndone then "Operation Undone"
  else "Unknown"

end Kmip
