import ControlPlane.Message
import ControlPlane.Pager.Basic

/-!
# The methods of the services

* `Method` -- the five calls, each with the types of its request and its response;
* `Listing` -- the three calls that give pages, each with the type of its items, and how its
  requests and responses are requests for pages and pages.
-/

namespace ControlPlane

/-! ## 1. Methods -/

/-- A call of one of the two services. -/
inductive Method where
  | getInstance
  | listInstances
  | listOperations
  | getDisk
  | listDisks
  deriving DecidableEq, Repr

namespace Method

/-- What a method is asked. -/
def Request : Method → Type
  | .getInstance => GetInstanceRequest
  | .listInstances => ListInstancesRequest
  | .listOperations => ListOperationsRequest
  | .getDisk => GetDiskRequest
  | .listDisks => ListDisksRequest

/-- What a method answers. -/
def Response : Method → Type
  | .getInstance => Instance
  | .listInstances => ListInstancesResponse
  | .listOperations => ListOperationsResponse
  | .getDisk => Disk
  | .listDisks => ListDisksResponse

instance : (m : Method) → Message m.Request
  | .getInstance => inferInstanceAs (Message GetInstanceRequest)
  | .listInstances => inferInstanceAs (Message ListInstancesRequest)
  | .listOperations => inferInstanceAs (Message ListOperationsRequest)
  | .getDisk => inferInstanceAs (Message GetDiskRequest)
  | .listDisks => inferInstanceAs (Message ListDisksRequest)

instance : (m : Method) → Message m.Response
  | .getInstance => inferInstanceAs (Message Instance)
  | .listInstances => inferInstanceAs (Message ListInstancesResponse)
  | .listOperations => inferInstanceAs (Message ListOperationsResponse)
  | .getDisk => inferInstanceAs (Message Disk)
  | .listDisks => inferInstanceAs (Message ListDisksResponse)

end Method

/-! ## 2. Listings -/

/-- A call that gives pages. -/
inductive Listing where
  | instances
  | disks
  | operations
  deriving DecidableEq, Repr

/-- The part of a request for a page of a folder that stays the same. -/
structure FolderScope where
  folderId : String
  filter : String
  deriving DecidableEq, Repr

/-- The part of a request for a page of operations that stays the same. -/
structure InstanceScope where
  instanceId : String
  deriving DecidableEq, Repr

namespace Listing

/-- The method of a listing. -/
def method : Listing → Method
  | .instances => .listInstances
  | .disks => .listDisks
  | .operations => .listOperations

/-- What a listing gives. -/
def Item : Listing → Type
  | .instances => Instance
  | .disks => Disk
  | .operations => Operation

/-- What a listing is of. -/
def Scope : Listing → Type
  | .instances => FolderScope
  | .disks => FolderScope
  | .operations => InstanceScope

instance : (l : Listing) → Message l.Item
  | .instances => inferInstanceAs (Message Instance)
  | .disks => inferInstanceAs (Message Disk)
  | .operations => inferInstanceAs (Message Operation)

/-- The request for a page. -/
def ofPageRequest : (l : Listing) → PageRequest l.Scope → l.method.Request
  | .instances, r =>
    (⟨r.scope.folderId, r.pageSize, r.pageToken, r.scope.filter⟩ : ListInstancesRequest)
  | .disks, r => (⟨r.scope.folderId, r.pageSize, r.pageToken, r.scope.filter⟩ : ListDisksRequest)
  | .operations, r => (⟨r.scope.instanceId, r.pageSize, r.pageToken⟩ : ListOperationsRequest)

/-- A request as a request for a page. -/
def toPageRequest : (l : Listing) → l.method.Request → PageRequest l.Scope
  | .instances, (r : ListInstancesRequest) => ⟨⟨r.folderId, r.filter⟩, r.pageSize, r.pageToken⟩
  | .disks, (r : ListDisksRequest) => ⟨⟨r.folderId, r.filter⟩, r.pageSize, r.pageToken⟩
  | .operations, (r : ListOperationsRequest) => ⟨⟨r.instanceId⟩, r.pageSize, r.pageToken⟩

/-- The page of a response. -/
def toPage : (l : Listing) → l.method.Response → Page l.Item
  | .instances, (r : ListInstancesResponse) => ⟨r.instances, r.nextPageToken⟩
  | .disks, (r : ListDisksResponse) => ⟨r.disks, r.nextPageToken⟩
  | .operations, (r : ListOperationsResponse) => ⟨r.operations, r.nextPageToken⟩

end Listing

end ControlPlane
