import McpProxyFixtures.Python.Str

/-!
# The restaurant server

`eval/src/mcpproxy_eval/servers/restaurant.py` answers from one table, `RESTAURANTS`:
three restaurants, each with a menu of named sections.  Its tools look a restaurant up
under `lower().strip()` of the name they are given, a menu section likewise, and an
ordered item under `lower().strip()` against the `lower()` of every item's name.  Prices
are in cents and ratings in tenths; the float arithmetic of `calculate_order_total`
(subtotal, tax, tip, total) is not modelled, only the items it orders.  What the tools
answer depends on the fixed table alone, so it is left to the definitions, which evaluate.
-/

namespace McpProxyFixtures
namespace Servers

open Python

/-! ## The table -/

/-- A menu item; `price` is in cents. -/
structure MenuItem where
  name : String
  price : Nat
  description : String
deriving DecidableEq

/-- An entry of `RESTAURANTS`; `rating` is in tenths. -/
structure Restaurant where
  cuisine : String
  rating : Nat
  priceRange : String
  location : String
  hours : String
  menu : List (String × List MenuItem)
deriving DecidableEq

/-- `RESTAURANTS`. -/
def restaurants : List (String × Restaurant) := [
  ("mario\x27s pizza", ⟨"italian", 45, "$$", "123 Main St", "11:00 AM - 10:00 PM", [
      ("appetizers", [
        ⟨"Garlic Bread", 899, "Fresh baked bread with garlic butter"⟩,
        ⟨"Caesar Salad", 1299, "Romaine lettuce, parmesan, croutons"⟩,
        ⟨"Bruschetta", 1099, "Toasted bread with tomatoes and basil"⟩]),
      ("mains", [
        ⟨"Margherita Pizza", 1699, "Tomato sauce, mozzarella, fresh basil"⟩,
        ⟨"Pepperoni Pizza", 1899, "Tomato sauce, mozzarella, pepperoni"⟩,
        ⟨"Spaghetti Carbonara", 2299, "Pasta with eggs, cheese, pancetta"⟩,
        ⟨"Lasagna", 2499, "Layered pasta with meat sauce and cheese"⟩]),
      ("desserts", [
        ⟨"Tiramisu", 899, "Coffee-flavored Italian dessert"⟩,
        ⟨"Gelato", 699, "Italian ice cream, various flavors"⟩])]⟩),
  ("sushi zen", ⟨"japanese", 48, "$$$", "456 Oak Ave", "5:00 PM - 11:00 PM", [
      ("appetizers", [
        ⟨"Edamame", 699, "Steamed soybeans with sea salt"⟩,
        ⟨"Gyoza", 899, "Pan-fried pork dumplings"⟩,
        ⟨"Miso Soup", 499, "Traditional soybean paste soup"⟩]),
      ("sushi_rolls", [
        ⟨"California Roll", 1299, "Crab, avocado, cucumber"⟩,
        ⟨"Spicy Tuna Roll", 1499, "Spicy tuna, cucumber, avocado"⟩,
        ⟨"Dragon Roll", 1899, "Eel, cucumber, avocado on top"⟩,
        ⟨"Rainbow Roll", 1699, "California roll topped with assorted fish"⟩]),
      ("sashimi", [
        ⟨"Salmon Sashimi", 1599, "Fresh raw salmon slices"⟩,
        ⟨"Tuna Sashimi", 1799, "Fresh raw tuna slices"⟩,
        ⟨"Mixed Sashimi", 2499, "Assortment of fresh fish"⟩])]⟩),
  ("burger barn", ⟨"american", 42, "$", "789 Elm St", "11:00 AM - 9:00 PM", [
      ("burgers", [
        ⟨"Classic Burger", 1299, "Beef patty, lettuce, tomato, onion"⟩,
        ⟨"Cheeseburger", 1499, "Classic burger with cheddar cheese"⟩,
        ⟨"BBQ Bacon Burger", 1699, "Burger with BBQ sauce and bacon"⟩,
        ⟨"Veggie Burger", 1399, "Plant-based patty with vegetables"⟩]),
      ("sides", [
        ⟨"French Fries", 499, "Crispy golden fries"⟩,
        ⟨"Onion Rings", 699, "Beer-battered onion rings"⟩,
        ⟨"Coleslaw", 399, "Fresh cabbage salad"⟩]),
      ("shakes", [
        ⟨"Vanilla Shake", 599, "Creamy vanilla milkshake"⟩,
        ⟨"Chocolate Shake", 599, "Rich chocolate milkshake"⟩,
        ⟨"Strawberry Shake", 599, "Fresh strawberry milkshake"⟩])]⟩)]

/-! ## The tools -/

/-- A restaurant's description: an entry of `search_restaurants`' `results`, and the
answer of `get_restaurant_info`. -/
structure RestaurantInfo where
  name : String
  cuisine : String
  rating : Nat
  priceRange : String
  location : String
  hours : String
deriving DecidableEq

/-- The description of a restaurant under a name. -/
def Restaurant.info (restaurant : Restaurant) (name : String) : RestaurantInfo :=
  ⟨name, restaurant.cuisine, restaurant.rating, restaurant.priceRange, restaurant.location,
    restaurant.hours⟩

/-- What `search_restaurants` returns; `cuisine` and `priceRange` are its `query`. -/
structure SearchResults where
  cuisine : String
  priceRange : String
  results : List RestaurantInfo
  count : Nat
deriving DecidableEq

/-- `search_restaurants(cuisine, price_range)`: `"any"` matches everything; cuisines are
compared after `lower()`, price ranges as given. -/
def searchRestaurants (lowerNonAscii : Char → List Char) (cuisine priceRange : String) :
    SearchResults :=
  let results := restaurants.filterMap fun (name, restaurant) =>
    let cuisineMatch :=
      cuisine == "any" || pyLower lowerNonAscii restaurant.cuisine == pyLower lowerNonAscii cuisine
    let priceMatch := priceRange == "any" || restaurant.priceRange == priceRange
    if cuisineMatch && priceMatch then some (restaurant.info name) else none
  ⟨cuisine, priceRange, results, results.length⟩

/-- What `get_menu` returns. -/
inductive GetMenu where
  | notFound (restaurant error : String) (availableRestaurants : List String)
  | menu (restaurant cuisine : String) (menu : List (String × List MenuItem))
      (location hours : String)
deriving DecidableEq

/-- `get_menu(restaurant_name)`. -/
def getMenu (lowerNonAscii : Char → List Char) (restaurantName : String) : GetMenu :=
  match dictGet restaurants (pyLowerStrip lowerNonAscii restaurantName) with
  | none => .notFound restaurantName "Restaurant not found" (restaurants.map (·.1))
  | some restaurant =>
    .menu restaurantName restaurant.cuisine restaurant.menu restaurant.location restaurant.hours

/-- What `get_menu_section` returns. -/
inductive MenuSection where
  | restaurantNotFound (restaurant error : String)
  | sectionNotFound (restaurant sectionName error : String) (availableSections : List String)
  | items (restaurant sectionName : String) (items : List MenuItem)
deriving DecidableEq

/-- `get_menu_section(restaurant_name, section)`; `sectionName` is `section`. -/
def getMenuSection (lowerNonAscii : Char → List Char) (restaurantName sectionName : String) :
    MenuSection :=
  match dictGet restaurants (pyLowerStrip lowerNonAscii restaurantName) with
  | none => .restaurantNotFound restaurantName "Restaurant not found"
  | some restaurant =>
    match dictGet restaurant.menu (pyLowerStrip lowerNonAscii sectionName) with
    | none =>
      .sectionNotFound restaurantName sectionName "Menu section not found"
        (restaurant.menu.map (·.1))
    | some items => .items restaurantName sectionName items

/-- An entry of `order_items`: a menu item, or the requested name with `"price": 0.0`. -/
inductive OrderItem where
  | item (item : MenuItem)
  | notFound (name error : String)
deriving DecidableEq

/-- What `calculate_order_total` returns, without its float totals. -/
inductive OrderTotal where
  | restaurantNotFound (restaurant error : String)
  | order (restaurant : String) (orderItems : List OrderItem)
deriving DecidableEq

/-- `all_items`: every item of a menu under `lower()` of its name, a later section
overriding an earlier one. -/
def allItems (lowerNonAscii : Char → List Char) (menu : List (String × List MenuItem)) :
    List (String × MenuItem) :=
  menu.flatMap fun s => s.2.map fun item => (pyLower lowerNonAscii item.name, item)

/-- `calculate_order_total(restaurant_name, items)`. -/
def calculateOrderTotal (lowerNonAscii : Char → List Char) (restaurantName : String)
    (items : List String) : OrderTotal :=
  match dictGet restaurants (pyLowerStrip lowerNonAscii restaurantName) with
  | none => .restaurantNotFound restaurantName "Restaurant not found"
  | some restaurant =>
    .order restaurantName (items.map fun itemName =>
      match dictGet (allItems lowerNonAscii restaurant.menu) (pyLowerStrip lowerNonAscii itemName) with
      | some item => .item item
      | none => .notFound itemName "Item not found")

/-- What `get_restaurant_info` returns. -/
inductive GetRestaurantInfo where
  | notFound (restaurant error : String) (availableRestaurants : List String)
  | info (info : RestaurantInfo)
deriving DecidableEq

/-- `get_restaurant_info(restaurant_name)`. -/
def getRestaurantInfo (lowerNonAscii : Char → List Char) (restaurantName : String) :
    GetRestaurantInfo :=
  match dictGet restaurants (pyLowerStrip lowerNonAscii restaurantName) with
  | none => .notFound restaurantName "Restaurant not found" (restaurants.map (·.1))
  | some restaurant => .info (restaurant.info restaurantName)

end Servers
end McpProxyFixtures
